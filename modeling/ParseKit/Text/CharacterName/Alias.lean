/-!
# Further names of characters

Names that characters have besides their own: those of the control
characters, abbreviations, and corrections of names with a mistake. They
are in the shortened form that `ParseKit.Text.CharacterName` reads.
-/

namespace ParseKit.Text

/-- Further names of characters, all names of one character together. -/
def aliasNames : String := "
@0aNULaNULL@1aSOHaSTART OF HEADING@2cTEXTaSTX@3aEND OF TEXTaETX@4aEND OF TRANSMISSIONaEOT@5aENQ
aENQUIRY@6aACKaACKNOWLEDGE@7aALERTaBEL@8aBACKSPACEaBS@9aCHARACTER TABULATIONaHORIZONTAL TABULATION
aHTaTAB@AaEND OF LINEaEOLaLFaLINE FEEDaNEW LINEaNL@BaLINE TABULATIONaVERTICAL TABULATIONaVT@CaFF
aFORM FEED@DaCARRIAGE RETURNaCR@EaLOCKING-SHIFT ONEaSHIFT OUTaSO@FaLOCKING-SHIFT ZEROaSHIFT INaSI
@10aDATA LINK ESCAPEaDLE@11aDC1aDEVICE CONTROL ONE@12aDC2aDEVICE CONTROL TWO@13aDC3
aDEVICE CONTROL THREE@14aDC4aDEVICE CONTROL FOUR@15aNAKaNEGATIVE ACKNOWLEDGE@16aSYN
aSYNCHRONOUS IDLE@17aEND OF TRANSMISSION BLOCKaETB@18aCANaCANCEL@19aEND OF MEDIUMaEOM@1AaSUB
aSUBSTITUTE@1BaESCaESCAPE@1CaFILE SEPARATORaFSaINFORMATION SEPARATOR FOUR@1DaGROUP SEPARATORaGS
aINFORMATION SEPARATOR THREE@1EcTWOaRECORD SEPARATORaRS@1FaINFORMATION SEPARATOR ONE
aUNIT SEPARATORaUS@20aSP@7FaDELaDELETE@80aPADaPADDING CHARACTER@81aHIGH OCTET PRESETaHOP@82aBPH
aBREAK PERMITTED HERE@83aNBHaNO BREAK HERE@84aINDaINDEX@85aNELaNEXT LINE@86aSSA
aSTART OF SELECTED AREA@87aEND OF SELECTED AREAaESA@88aCHARACTER TABULATION SET
aHORIZONTAL TABULATION SETaHTS@89aCHARACTER TABULATION WITH JUSTIFICATION
aHORIZONTAL TABULATION WITH JUSTIFICATIONaHTJ@8AaLINE TABULATION SETaVERTICAL TABULATION SETaVTS
@8BaPARTIAL LINE DOWNcFORWARDaPLD@8CaPARTIAL LINE BACKWARDcUPaPLU@8DaREVERSE INDEXbLINE FEEDaRI@8E
aSINGLE SHIFT TWOaSINGLE-SHIFT-2aSS2@8FaSINGLE SHIFT THREEaSINGLE-SHIFT-3aSS3@90aDCS
aDEVICE CONTROL STRING@91aPRIVATE USE ONEbUSE-1aPU1@92aPRIVATE USE TWObUSE-2aPU2@93
aSET TRANSMIT STATEaSTS@94aCANCEL CHARACTERaCCH@95aMESSAGE WAITINGaMW@96aSPAaSTART OF GUARDED AREA
cPROTECTED AREA@97aEND OF GUARDED AREAcPROTECTED AREAaEPA@98aSOSaSTART OF STRING@99aSGC
aSINGLE GRAPHIC CHARACTER INTRODUCER@9AaSCIaSINGLE CHARACTER INTRODUCER@9B
aCONTROL SEQUENCE INTRODUCERaCSI@9CaSTaSTRING TERMINATOR@9DaOPERATING SYSTEM COMMANDaOSC@9EaPM
aPRIVACY MESSAGE@9FaAPCaAPPLICATION PROGRAM COMMAND@A0aNBSP@ADaSHY@1A2aLATIN CAPITAL LETTER GHA
@1A3bSMALL LETTER GHA@34FaCGJ@61CaALM@709aSYRIAC SUBLINEAR COLON SKEWED LEFT@CDE
aKANNADA LETTER LLLA@E9DaLAO LETTER FO FON@E9FdFAY@EA3cRO@EA5cLO@FD0
aTIBETAN MARK BKA- SHOG GI MGO RGYAN@11ECaHANGUL JONGSEONG YESIEUNG-KIYEOK@11EDdSSANGKIYEOK@11EE
cSSANGYESIEUNG@11EFcYESIEUNG-KHIEUKH@180BaFVS1@180CaFVS2@180DaFVS3@180EaMVS@180FaFVS4@200BaZWSP
@200CaZWNJ@200DaZWJ@200EaLRM@200FaRLM@202AaLRE@202BaRLE@202CaPDF@202DaLRO@202EaRLO@202FaNNBSP@205F
aMMSP@2060aWJ@2066aLRI@2067aRLI@2068aFSI@2069aPDI@2118aWEIERSTRASS ELLIPTIC FUNCTION@2448
aMICR ON US SYMBOL@2449bDASH SYMBOL@2B7A
aLEFTWARDS TRIANGLE-HEADED ARROW WITH DOUBLE VERTICAL STROKE@2B7C
aRIGHTWARDS TRIANGLE-HEADED ARROW WITH DOUBLE VERTICAL STROKE@A015aYI SYLLABLE ITERATION MARK@AA6E
aMYANMAR LETTER KHAMTI LLA@FE00aVS1@FE01aVS2@FE02aVS3@FE03aVS4@FE04aVS5@FE05aVS6@FE06aVS7@FE07aVS8
@FE08aVS9@FE09aVS10@FE0AaVS11@FE0BaVS12@FE0CaVS13@FE0DaVS14@FE0EaVS15@FE0FaVS16@FE18
aPRESENTATION FORM FOR VERTICAL RIGHT WHITE LENTICULAR BRACKET@FEFFaBOMaBYTE ORDER MARKaZWNBSP
@122D4aCUNEIFORM SIGN NU11 TENU@122D5dOVER NU11 BUR OVER BUR@16E56aMEDEFAIDRIN CAPITAL LETTER H
@16E57dNG@16E76bSMALL LETTER H@16E77dNG@1B001aHENTAIGANA LETTER E-1@1D0C5
aBYZANTINE MUSICAL SYMBOL FTHORA SKLIRON CHROMA VASIS@E0100aVS17@E0101aVS18@E0102aVS19@E0103aVS20
@E0104aVS21@E0105aVS22@E0106aVS23@E0107aVS24@E0108aVS25@E0109aVS26@E010AaVS27@E010BaVS28@E010C
aVS29@E010DaVS30@E010EaVS31@E010FaVS32@E0110aVS33@E0111aVS34@E0112aVS35@E0113aVS36@E0114aVS37
@E0115aVS38@E0116aVS39@E0117aVS40@E0118aVS41@E0119aVS42@E011AaVS43@E011BaVS44@E011CaVS45@E011D
aVS46@E011EaVS47@E011FaVS48@E0120aVS49@E0121aVS50@E0122aVS51@E0123aVS52@E0124aVS53@E0125aVS54
@E0126aVS55@E0127aVS56@E0128aVS57@E0129aVS58@E012AaVS59@E012BaVS60@E012CaVS61@E012DaVS62@E012E
aVS63@E012FaVS64@E0130aVS65@E0131aVS66@E0132aVS67@E0133aVS68@E0134aVS69@E0135aVS70@E0136aVS71
@E0137aVS72@E0138aVS73@E0139aVS74@E013AaVS75@E013BaVS76@E013CaVS77@E013DaVS78@E013EaVS79@E013F
aVS80@E0140aVS81@E0141aVS82@E0142aVS83@E0143aVS84@E0144aVS85@E0145aVS86@E0146aVS87@E0147aVS88
@E0148aVS89@E0149aVS90@E014AaVS91@E014BaVS92@E014CaVS93@E014DaVS94@E014EaVS95@E014FaVS96@E0150
aVS97@E0151aVS98@E0152aVS99@E0153aVS100@E0154aVS101@E0155aVS102@E0156aVS103@E0157aVS104@E0158
aVS105@E0159aVS106@E015AaVS107@E015BaVS108@E015CaVS109@E015DaVS110@E015EaVS111@E015FaVS112@E0160
aVS113@E0161aVS114@E0162aVS115@E0163aVS116@E0164aVS117@E0165aVS118@E0166aVS119@E0167aVS120@E0168
aVS121@E0169aVS122@E016AaVS123@E016BaVS124@E016CaVS125@E016DaVS126@E016EaVS127@E016FaVS128@E0170
aVS129@E0171aVS130@E0172aVS131@E0173aVS132@E0174aVS133@E0175aVS134@E0176aVS135@E0177aVS136@E0178
aVS137@E0179aVS138@E017AaVS139@E017BaVS140@E017CaVS141@E017DaVS142@E017EaVS143@E017FaVS144@E0180
aVS145@E0181aVS146@E0182aVS147@E0183aVS148@E0184aVS149@E0185aVS150@E0186aVS151@E0187aVS152@E0188
aVS153@E0189aVS154@E018AaVS155@E018BaVS156@E018CaVS157@E018DaVS158@E018EaVS159@E018FaVS160@E0190
aVS161@E0191aVS162@E0192aVS163@E0193aVS164@E0194aVS165@E0195aVS166@E0196aVS167@E0197aVS168@E0198
aVS169@E0199aVS170@E019AaVS171@E019BaVS172@E019CaVS173@E019DaVS174@E019EaVS175@E019FaVS176@E01A0
aVS177@E01A1aVS178@E01A2aVS179@E01A3aVS180@E01A4aVS181@E01A5aVS182@E01A6aVS183@E01A7aVS184@E01A8
aVS185@E01A9aVS186@E01AAaVS187@E01ABaVS188@E01ACaVS189@E01ADaVS190@E01AEaVS191@E01AFaVS192@E01B0
aVS193@E01B1aVS194@E01B2aVS195@E01B3aVS196@E01B4aVS197@E01B5aVS198@E01B6aVS199@E01B7aVS200@E01B8
aVS201@E01B9aVS202@E01BAaVS203@E01BBaVS204@E01BCaVS205@E01BDaVS206@E01BEaVS207@E01BFaVS208@E01C0
aVS209@E01C1aVS210@E01C2aVS211@E01C3aVS212@E01C4aVS213@E01C5aVS214@E01C6aVS215@E01C7aVS216@E01C8
aVS217@E01C9aVS218@E01CAaVS219@E01CBaVS220@E01CCaVS221@E01CDaVS222@E01CEaVS223@E01CFaVS224@E01D0
aVS225@E01D1aVS226@E01D2aVS227@E01D3aVS228@E01D4aVS229@E01D5aVS230@E01D6aVS231@E01D7aVS232@E01D8
aVS233@E01D9aVS234@E01DAaVS235@E01DBaVS236@E01DCaVS237@E01DDaVS238@E01DEaVS239@E01DFaVS240@E01E0
aVS241@E01E1aVS242@E01E2aVS243@E01E3aVS244@E01E4aVS245@E01E5aVS246@E01E6aVS247@E01E7aVS248@E01E8
aVS249@E01E9aVS250@E01EAaVS251@E01EBaVS252@E01ECaVS253@E01EDaVS254@E01EEaVS255@E01EFaVS256
"

end ParseKit.Text
