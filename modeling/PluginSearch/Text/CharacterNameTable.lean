set_option autoImplicit false

namespace PluginSearch.CharacterNameTable

def firstPart : List String :=
  ["aABACUSaAC CURRENTaACCORDIONaACCOUNT OFaACKaACKNOWLEDGEaACTIVATE ARABIC FORM SHAPING",
   "bSYMMETRIC SWAPPINGaACUTE ACCENTbANGLEaADDRESSED TO THE SUBJECTaADHESIVE BANDAGEaADI SHAKTI",
   "aADLAM ALIF LENGTHENERbCAPITAL LETTER ALIFdBAdBHEdCHIdDAALIdDHAdEdFAdGAdGBEdHAdIdJIIMdKAFdKHA",
   "dKPOdLAAMdMIIMdNHAdNUNdNYAdOdPEdQAAFdRAdSHAdSINNYIIYHEdTUdUdVAdWAWdYAdYHEdZAL",
   "bCONSONANT MODIFIERbDIGIT EIGHTcFIVEcFOURcNINEcONEcSEVENcSIXcTHREEcTWOcZERO",
   "bGEMINATE CONSONANT MODIFIERbGEMINATION MARKbHAMZAbINITIAL EXCLAMATION MARKcQUESTION MARK",
   "bNASALIZATION MARKbNUKTAbSMALL LETTER ALIFdBAdBHEdCHIdDAALIdDHAdEdFAdGAdGBEdHAdIdJIIMdKAFdKHA",
   "dKPOdLAAMdMIIMdNHAdNUNdNYAdOdPEdQAAFdRAdSHAdSINNYIIYHEdTUdUdVAdWAWdYAdYHEdZALbVOWEL LENGTHENER",
   "aADMETOSaADMISSION TICKETSaADULTaAEGEAN CHECK MARKbDRY MEASURE FIRST SUBUNIT",
   "bLIQUID MEASURE FIRST SUBUNITbMEASURE SECOND SUBUNITcTHIRD SUBUNITbNUMBER EIGHTcEIGHT HUNDRED",
   "dTHOUSANDcEIGHTYcEIGHTY THOUSANDcFIFTYcFIFTY THOUSANDcFIVEcFIVE HUNDREDdTHOUSANDcFORTY",
   "cFORTY THOUSANDcFOURcFOUR HUNDREDdTHOUSANDcNINEcNINE HUNDREDdTHOUSANDcNINETYcNINETY THOUSAND",
   "cONEcONE HUNDREDdTHOUSANDcSEVENcSEVEN HUNDREDdTHOUSANDcSEVENTYcSEVENTY THOUSANDcSIXcSIX HUNDRED",
   "dTHOUSANDcSIXTYcSIXTY THOUSANDcTENcTEN THOUSANDcTHIRTYcTHIRTY THOUSANDcTHREEcTHREE HUNDRED",
   "dTHOUSANDcTWENTYcTWENTY THOUSANDcTWOcTWO HUNDREDdTHOUSANDbWEIGHT BASE UNITcFIRST SUBUNIT",
   "cFOURTH SUBUNITcSECOND SUBUNITcTHIRD SUBUNITbWORD SEPARATOR DOTdLINEaAERIAL TRAMWAY",
   "aAFGHANI SIGNaAHOM CONSONANT SIGN MEDIAL LAeLIGATING RAeRAbDIGIT EIGHTcFIVEcFOURcNINEcONEcSEVEN",
   "cSIXcTHREEcTWOcZERObLETTER AcALTERNATE BAdGAdTAcBAcBHAcCAcCHAcDAcDDAcDDHAcDHAcGAcGHAcHAcJAcJHA",
   "cKAcKHAcLAcLLAcMAcNAcNGAcNNAcNYAcPAcPHAcRAcSAcTAcTHAcTTAcTTHAbNUMBER TENcTWENTYbSIGN KILLER",
   "cRULAIcSECTIONcSMALL SECTIONbSYMBOL VIbVOWEL SIGN AdAAdAIdAMdAWdEdIdIIdOdUdUUaAIRPLANE",
   "aAIRPLANE ARRIVINGbDEPARTUREaAKTIESELSKABaALARM CLOCKaALCHEMICAL SYMBOL FOR AIRdALEMBICdALKALI",
   "dALKALI-2dALUMdAMALGAMdANTIMONY OREdAQUA REGIAeREGIA-2eVITAEeVITAE-2dAQUAFORTISdARSENICdASHES",
   "dAURIPIGMENTdBATH OF MARYfVAPOURSdBISMUTH OREdBLACK SULFURdBORAXdBORAX-2e3dBRICKdCADUCEUSdCALX",
   "dCAPUT MORTUUMdCINNABARdCOPPER ANTIMONIATEeOREdCROCUS OF COPPERfCOPPER-2fIRONdCRUCIBLE",
   "dCRUCIBLE-2e3e4e5dDAY-NIGHTdDISSOLVEdDISSOLVE-2dDISTILLdEARTHdFIREdGOLDdGUMdHALF DRAMeOUNCE",
   "dHORSE DUNGdHOURdIRON OREeORE-2dIRON-COPPER OREdLEAD OREdLODESTONEdMARCASITEdMERCURY SUBLIMATE",
   "eSUBLIMATE-2f3dMONTHdNIGHTdNITREdOILdPHILOSOPHERS SULFURdPOT ASHESdPOWDERdPOWDERED BRICK",
   "dPRECIPITATEdPURIFYdPUTREFACTIONdQUICK LIMEdQUINTESSENCEdREALGARdREALGAR-2dREGULUS",
   "dREGULUS OF ANTIMONYfANTIMONY-2fIRONdREGULUS-2e3e4dRETORTdROCK SALTeSALT-2dSAL-AMMONIACdSALT",
   "dSALT OF ANTIMONYfCOPPER ANTIMONIATEdSCEPTER OF JOVEdSILVERdSOAPdSPIRITdSTARRED TRIDENT",
   "dSTRATUM SUPER STRATUMfSTRATUM-2dSUBLIMATE OF ANTIMONYfCOPPERfSALT OF ANTIMONYhCOPPER",
   "dSUBLIMATIONdSULFURdTARTARdTARTAR-2dTIN OREdTINCTUREdTRIDENTdTUTTYdURINEdVERDIGRISdVINEGAR",
   "dVINEGAR OF ANTIMONYdVINEGAR-2e3dVITRIOLdVITRIOL-2dWATERdWAXaALEF SYMBOLaALEMBICaALERT",
   "aALIEN MONSTERaALL AROUND-PROFILEbEQUAL TOaALMaALMOST EQUAL OR EQUAL TOcTO",
   "cTO WITH CIRCUMFLEX ACCENTaALTERNATE ONE-WAY LEFT WAY TRAFFICaALTERNATIVE KEY SYMBOL",
   "aAMALGAMATION OR COPRODUCTaAMBULANCEaAMERICAN FOOTBALLaAMPERSANDaAMPHORA",
   "aANATOLIAN HIEROGLYPH A001cA002cA003cA004cA005cA006cA007cA008cA009cA010cA010AcA011cA012cA013",
   "cA014cA015cA016cA017cA018cA019cA020cA021cA022cA023cA024cA025cA026cA026AcA027cA028cA029cA030",
   "cA031cA032cA033cA034cA035cA036cA037cA038cA039cA039AcA040cA041cA041AcA042cA043cA044cA045cA045A",
   "cA046cA046AcA046BcA047cA048cA049cA050cA051cA052cA053cA054cA055cA056cA057cA058cA059cA060cA061",
   "cA062cA063cA064cA065cA066cA066AcA066BcA066CcA067cA068cA069cA070cA071cA072cA073cA074cA075cA076",
   "cA077cA078cA079cA080cA081cA082cA083cA084cA085cA086cA087cA088cA089cA090cA091cA092cA093cA094cA095",
   "cA096cA097cA097AcA098cA098AcA099cA100cA100AcA101cA101AcA102cA102AcA103cA104cA104AcA104BcA104C",
   "cA105cA105AcA105BcA106cA107cA107AcA107BcA107CcA108cA109cA110cA110AcA110BcA111cA112cA113cA114",
   "cA115cA115AcA116cA117cA118cA119cA120cA121cA122cA123cA124cA125cA125AcA126cA127cA128cA129cA130",
   "cA131cA132cA133cA134cA135cA135AcA136cA137cA138cA139cA140cA141cA142cA143cA144cA145cA146cA147",
   "cA148cA149cA150cA151cA152cA153cA154cA155cA156cA157cA158cA159cA160cA161cA162cA163cA164cA165cA166",
   "cA167cA168cA169cA170cA171cA172cA173cA174cA175cA176cA177cA178cA179cA180cA181cA182cA183cA184cA185",
   "cA186cA187cA188cA189cA190cA191cA192cA193cA194cA195cA196cA197cA198cA199cA200cA201cA202cA202A",
   "cA202BcA203cA204cA205cA206cA207cA207AcA208cA209cA209AcA210cA211cA212cA213cA214cA215cA215AcA216",
   "cA216AcA217cA218cA219cA220cA221cA222cA223cA224cA225cA226cA227cA227AcA228cA229cA230cA231cA232",
   "cA233cA234cA235cA236cA237cA238cA239cA240cA241cA242cA243cA244cA245cA246cA247cA248cA249cA250cA251",
   "cA252cA253cA254cA255cA256cA257cA258cA259cA260cA261cA262cA263cA264cA265cA266cA267cA267AcA268",
   "cA269cA270cA271cA272cA273cA274cA275cA276cA277cA278cA279cA280cA281cA282cA283cA284cA285cA286cA287",
   "cA288cA289cA289AcA290cA291cA292cA293cA294cA294AcA295cA296cA297cA298cA299cA299AcA300cA301cA302",
   "cA303cA304cA305cA306cA307cA308cA309cA309AcA310cA311cA312cA313cA314cA315cA316cA317cA318cA319",
   "cA320cA321cA322cA323cA324cA325cA326cA327cA328cA329cA329AcA330cA331cA332AcA332BcA332CcA333cA334",
   "cA335cA336cA336AcA336BcA336CcA337cA338cA339cA340cA341cA342cA343cA344cA345cA346cA347cA348cA349",
   "cA350cA351cA352cA353cA354cA355cA356cA357cA358cA359cA359AcA360cA361cA362cA363cA364cA364AcA365",
   "cA366cA367cA368cA368AcA369cA370cA371cA371AcA372cA373cA374cA375cA376cA377cA378cA379cA380cA381",
   "cA381AcA382cA383 RA OR RIcA383AcA384cA385cA386cA386AcA387cA388cA389cA390cA391cA392cA393 EIGHT",
   "cA394cA395cA396cA397cA398cA399cA400cA401cA402cA403cA404cA405cA406cA407cA408cA409",
   "cA410 BEGIN LOGOGRAM MARKcA410A END LOGOGRAM MARKcA411cA412cA413cA414cA415cA416cA417cA418cA419",
   "cA420cA421cA422cA423cA424cA425cA426cA427cA428cA429cA430cA431cA432cA433cA434cA435cA436cA437cA438",
   "cA439cA440cA441cA442cA443cA444cA445cA446cA447cA448cA449cA450cA450AcA451cA452cA453cA454cA455",
   "cA456cA457cA457AcA458cA459cA460cA461cA462cA463cA464cA465cA466cA467cA468cA469cA470cA471cA472",
   "cA473cA474cA475cA476cA477cA478cA479cA480cA481cA482cA483cA484cA485cA486cA487cA488cA489cA490cA491",
   "cA492cA493cA494cA495cA496cA497cA501cA502cA503cA504cA505cA506cA507cA508cA509cA510cA511cA512cA513",
   "cA514cA515cA516cA517cA518cA519cA520cA521cA522cA523cA524cA525cA526cA527cA528cA529cA530",
   "aANATOMICAL HEARTaANCHORaAND WITH DOTaANGER SYMBOLaANGLEaANGLE WITH S INSIDEcUNDERBAR",
   "aANGRY FACEaANGSTROM SIGNaANGUISHED FACEaANKHaANTaANTENNA WITH BARS",
   "aANTICLOCKWISE CLOSED CIRCLE ARROWbCONTOUR INTEGRALbDOWNWARDS AND UPWARDS OPEN CIRCLE ARROWS",
   "bGAPPED CIRCLE ARROWbINTEGRATIONbOPEN CIRCLE ARROWbTOP SEMICIRCLE ARROW",
   "bTRIANGLE-HEADED BOTTOM U-SHAPED ARROWdLEFT U-SHAPED ARROWdOPEN CIRCLE ARROW",
   "dRIGHT U-SHAPED ARROWdTOP U-SHAPED ARROWaAPCaAPL FUNCTIONAL SYMBOL ALPHAdALPHA UNDERBAR",
   "dBACKSLASH BARdCIRCLE BACKSLASHeDIAERESISeJOTeSTAReSTILEeUNDERBARdCOMMA BARdDEL DIAERESISeSTILE",
   "eTILDEdDELTA STILEeUNDERBARdDIAMOND UNDERBARdDOWN CARET TILDEeSHOE STILEeTACK JOTfUNDERBAR",
   "dDOWNWARDS VANEdEPSILON UNDERBARdGREATER-THAN DIAERESISdI-BEAMdIOTAdIOTA UNDERBARdJOT DIAERESIS",
   "eUNDERBARdLEFT SHOE STILEdLEFTWARDS VANEdOMEGAdOMEGA UNDERBARdQUADdQUAD BACKSLASHeCIRCLEeCOLON",
   "eDELeDELTAeDIAMONDeDIVIDEeDOWN CARETeDOWNWARDS ARROWeEQUALeGREATER-THANeJOTeLEFTWARDS ARROW",
   "eLESS-THANeNOT EQUALeQUESTIONeRIGHTWARDS ARROWeSLASHeUP CARETeUPWARDS ARROWdQUOTE QUADeUNDERBAR",
   "dRHOdRIGHTWARDS VANEdSEMICOLON UNDERBARdSLASH BARdSQUISH QUADdSTAR DIAERESISdSTILE TILDE",
   "dTILDE DIAERESISdUP CARET TILDEeSHOE JOTeTACK DIAERESISfJOTfOVERBARdUPWARDS VANEdZILDEaAPOLLON",
   "aAPOSTROPHEaAPPLICATION PROGRAM COMMANDaAPPROACHES THE LIMIT",
   "aAPPROXIMATELY BUT NOT ACTUALLY EQUAL TObEQUAL OR EQUAL TOcTOcTO OR THE IMAGE OFaAQUARIUS",
   "aARABIC BASELINE ROUND DOTbCOMMAbCURLY DAMMAcDAMMATANcFATHAcFATHATANcKASRAcKASRATANbDAMMA",
   "bDAMMA ISOLATED FORMcMEDIAL FORMcWITH DOTbDAMMATANbDAMMATAN ISOLATED FORMbDATE SEPARATOR",
   "bDECIMAL SEPARATORbDISPUTED END OF AYAHbDOUBLE RIGHT ARROWHEAD ABOVEeABOVE WITH DOT",
   "bDOUBLED MADDAbEMPTY CENTRE HIGH STOPdLOW STOPbEND OF AYAHdTEXT MARKbFATHAbFATHA ISOLATED FORM",
   "cMEDIAL FORMcWITH DOT ABOVEdRINGdTWO DOTSbFATHATANbFATHATAN ISOLATED FORMbFIVE POINTED STAR",
   "bFOOTNOTE MARKERbFULL STOPbHALF MADDA OVER MADDAbHAMZA ABOVEcBELOWbINVERTED DAMMAbKASRA",
   "bKASRA ISOLATED FORMcMEDIAL FORMcWITH DOT BELOWbKASRATANbKASRATAN ISOLATED FORM",
   "bLARGE CIRCLE BELOWcROUND DOT ABOVEeBELOWeINSIDE CIRCLE BELOWbLEFT ARROWHEAD ABOVEdBELOW",
   "bLETTER AEcAFRICAN FEHdNOONdQAFdQAF WITH THREE DOTS ABOVEcAINcAIN FINAL FORMdINITIAL FORM",
   "dISOLATED FORMdMEDIAL FORMdWITH THREE DOTS ABOVEgBELOWgPOINTING DOWNWARDS ABOVEeTWO DOTS ABOVE",
   "gVERTICALLY ABOVEcALEFcALEF FINAL FORMdISOLATED FORMdMAKSURAdMAKSURA FINAL FORMeISOLATED FORM",
   "dWASLAdWASLA FINAL FORMeISOLATED FORMdWITH ATTACHED BOTTOM RIGHT KASRAhKASRA AND DOT ABOVE",
   "jLEFT RINGfFATHAfKASRAfLEFT HAMZAgROUND DOTfRIGHT HAMZAgROUND DOTfROUND DOT ABOVEhBELOW",
   "fTOP RIGHT FATHAhFATHA AND DOT ABOVEjLEFT RINGeDOT ABOVE",
   "eEXTENDED ARABIC-INDIC DIGIT THREE ABOVEiTWO ABOVEeHAMZA ABOVEfABOVE FINAL FORMgISOLATED FORM",
   "fBELOWfBELOW FINAL FORMgISOLATED FORMeLEFT MIDDLE STROKEeMADDA ABOVEfABOVE FINAL FORM",
   "gISOLATED FORMeRIGHT MIDDLE STROKEgSTROKE AND DOT ABOVEiLEFT RINGeWAVY HAMZA ABOVEgBELOWcBEEH",
   "cBEEH FINAL FORMdINITIAL FORMdISOLATED FORMdMEDIAL FORMcBEHcBEH FINAL FORMdINITIAL FORM",
   "dISOLATED FORMdMEDIAL FORMdWITH DOT BELOW AND THREE DOTS ABOVEeHAMZA ABOVE",
   "eINVERTED SMALL V BELOWeSMALL MEEM ABOVEfVfV BELOWeTHREE DOTS HORIZONTALLY BELOW",
   "gPOINTING UPWARDS BELOWiBELOW AND TWO DOTS ABOVEeTWO DOTS BELOW AND DOT ABOVEcBEHEH",
   "cBEHEH FINAL FORMdINITIAL FORMdISOLATED FORMdMEDIAL FORMcDADcDAD FINAL FORMdINITIAL FORM",
   "dISOLATED FORMdMEDIAL FORMdWITH DOT BELOWcDAHALcDAHAL FINAL FORMdISOLATED FORMcDAL",
   "cDAL FINAL FORMdISOLATED FORMdWITH DOT BELOWfBELOW AND SMALL TAHeFOUR DOTS ABOVE",
   "eINVERTED SMALL V BELOWfVeRINGeTHREE DOTS ABOVE DOWNWARDSgBELOW",
   "eTWO DOTS VERTICALLY BELOW AND SMALL TAHcDDAHALcDDAHAL FINAL FORMdISOLATED FORMcDDAL",
   "cDDAL FINAL FORMdISOLATED FORMcDOTLESS BEHdFEHdQAFcDULcDUL FINAL FORMdISOLATED FORMcDYEH",
   "cDYEH FINAL FORMdINITIAL FORMdISOLATED FORMdMEDIAL FORMcEcE FINAL FORMdINITIAL FORM",
   "dISOLATED FORMdMEDIAL FORMcFARSI YEHdYEH FINAL FORMeINITIAL FORMeISOLATED FORMeMEDIAL FORM",
   "eWITH EXTENDED ARABIC-INDIC DIGIT FOUR BELOWjTHREE ABOVEjTWO ABOVEfINVERTED VfTHREE DOTS ABOVE",
   "fTWO DOTS ABOVEcFEHcFEH FINAL FORMdINITIAL FORMdISOLATED FORMdMEDIAL FORMdWITH DOT BELOW",
   "fBELOW AND THREE DOTS ABOVEfMOVED BELOWeTHREE DOTS BELOWgPOINTING UPWARDS BELOWeTWO DOTS BELOW",
   "cGAFcGAF FINAL FORMdINITIAL FORMdISOLATED FORMdMEDIAL FORMdWITH INVERTED STROKEeRING",
   "eTHREE DOTS ABOVEeTWO DOTS BELOWcGHAINcGHAIN FINAL FORMdINITIAL FORMdISOLATED FORMdMEDIAL FORM",
   "dWITH DOT BELOWeTHREE DOTS ABOVEcGRAFcGUEHcGUEH FINAL FORMdINITIAL FORMdISOLATED FORM",
   "dMEDIAL FORMcHAHcHAH FINAL FORMdINITIAL FORMdISOLATED FORMdMEDIAL FORM",
   "dWITH EXTENDED ARABIC-INDIC DIGIT FOUR BELOWeHAMZA ABOVEeINVERTED SMALL V BELOW",
   "eSMALL ARABIC LETTER TAH ABOVEiAND TWO DOTSiBELOWeTHREE DOTS ABOVEgPOINTING UPWARDS BELOW",
   "eTWO DOTS ABOVEgVERTICAL ABOVEcHAMZAcHAMZA ISOLATED FORMcHEHcHEH DOACHASHMEE",
   "dDOACHASHMEE FINAL FORMeINITIAL FORMeISOLATED FORMeMEDIAL FORMdFINAL FORMdGOALdGOAL FINAL FORM",
   "eINITIAL FORMeISOLATED FORMeMEDIAL FORMeWITH HAMZA ABOVEdINITIAL FORMdISOLATED FORMdMEDIAL FORM",
   "dWITH INVERTED VeYEH ABOVEfABOVE FINAL FORMgISOLATED FORMcHIGH HAMZAdHAMZA ALEFeWAWeYEHcJEEM",
   "cJEEM FINAL FORMdINITIAL FORMdISOLATED FORMdMEDIAL FORMdWITH THREE DOTS ABOVEgBELOW",
   "eTWO DOTS ABOVEcJEHcJEH FINAL FORMdISOLATED FORMcKAFcKAF FINAL FORMdINITIAL FORMdISOLATED FORM",
   "dMEDIAL FORMdWITH DOT ABOVEfBELOWeRINGeTHREE DOTS BELOWeTWO DOTS ABOVEcKASHMIRI YEHcKEHEH",
   "cKEHEH FINAL FORMdINITIAL FORMdISOLATED FORMdMEDIAL FORMdWITH DOT ABOVEeSMALL V",
   "eTHREE DOTS ABOVEgBELOWgPOINTING UPWARDS BELOWeTWO DOTS ABOVEgVERTICALLY BELOWcKHAH",
   "cKHAH FINAL FORMdINITIAL FORMdISOLATED FORMdMEDIAL FORMcKIRGHIZ OEdOE FINAL FORMeISOLATED FORM",
   "dYUdYU FINAL FORMeISOLATED FORMcLAMcLAM FINAL FORMdINITIAL FORMdISOLATED FORMdMEDIAL FORM",
   "dWITH BAReDOT ABOVEeDOUBLE BAReSMALL ARABIC LETTER TAH ABOVEfVeTHREE DOTS ABOVEgBELOWcLOW ALEF",
   "cMARKcMEEMcMEEM FINAL FORMdINITIAL FORMdISOLATED FORMdMEDIAL FORMdWITH DOT ABOVEfBELOW",
   "eTHREE DOTS ABOVEcNGcNG FINAL FORMdINITIAL FORMdISOLATED FORMdMEDIAL FORMcNGOEH",
   "cNGOEH FINAL FORMdINITIAL FORMdISOLATED FORMdMEDIAL FORMcNOONcNOON FINAL FORMdGHUNNA",
   "dGHUNNA FINAL FORMeISOLATED FORMdINITIAL FORMdISOLATED FORMdMEDIAL FORMdWITH DOT BELOW",
   "eINVERTED SMALL VeRINGeSMALL TAHfVeTHREE DOTS ABOVEeTWO DOTS BELOWcNYEHcNYEH FINAL FORM",
   "dINITIAL FORMdISOLATED FORMdMEDIAL FORMcOEcOE FINAL FORMdISOLATED FORMcPEHcPEH FINAL FORM",
   "dINITIAL FORMdISOLATED FORMdMEDIAL FORMdWITH SMALL MEEM ABOVEfVcPEHEHcPEHEH FINAL FORM",
   "dINITIAL FORMdISOLATED FORMdMEDIAL FORMcQAFcQAF FINAL FORMdINITIAL FORMdISOLATED FORM",
   "dMEDIAL FORMdWITH DOT ABOVEfBELOWfBELOW AND NO DOTS ABOVEeTHREE DOTS ABOVEcREHcREH FINAL FORM",
   "dISOLATED FORMdWITH DOT BELOWfBELOW AND DOT ABOVEeFOUR DOTS ABOVEeHAMZA ABOVEeINVERTED VeLOOP",
   "eRINGeSMALL ARABIC LETTER TAH AND TWO DOTSfNOON ABOVEfVfV BELOWeSTROKEeTWO DOTS ABOVE",
   "gVERTICALLY ABOVEcRNOONcRNOON FINAL FORMdINITIAL FORMdISOLATED FORMdMEDIAL FORMcROHINGYA YEH",
   "cRREHcRREH FINAL FORMdISOLATED FORMcSADcSAD FINAL FORMdINITIAL FORMdISOLATED FORMdMEDIAL FORM",
   "dWITH THREE DOTS ABOVEgBELOWeTWO DOTS BELOWcSEENcSEEN FINAL FORMdINITIAL FORMdISOLATED FORM",
   "dMEDIAL FORMdWITH DOT BELOW AND DOT ABOVEeEXTENDED ARABIC-INDIC DIGIT FOUR ABOVE",
   "eFOUR DOTS ABOVEeINVERTED VeSMALL ARABIC LETTER TAH AND TWO DOTSeTHREE DOTS BELOW",
   "gBELOW AND THREE DOTS ABOVEeTWO DOTS VERTICALLY ABOVEcSHEENcSHEEN FINAL FORMdINITIAL FORM",
   "dISOLATED FORMdMEDIAL FORMdWITH DOT BELOWcSTRAIGHT WAWcSUPERSCRIPT ALEFcSWASH KAFcTAH",
   "cTAH FINAL FORMdINITIAL FORMdISOLATED FORMdMEDIAL FORMdWITH DOT BELOWeTHREE DOTS ABOVEgBELOW",
   "eTWO DOTS ABOVEcTCHEHcTCHEH FINAL FORMdINITIAL FORMdISOLATED FORMdMEDIAL FORMdWITH DOT ABOVE",
   "eSMALL VcTCHEHEHcTCHEHEH FINAL FORMdINITIAL FORMdISOLATED FORMdMEDIAL FORMcTEHcTEH FINAL FORM",
   "dINITIAL FORMdISOLATED FORMdMARBUTAdMARBUTA FINAL FORMeGOALeISOLATED FORMdMEDIAL FORMdWITH RING",
   "eSMALL TEH ABOVEfVeTHREE DOTS ABOVE DOWNWARDScTEHEHcTEHEH FINAL FORMdINITIAL FORMdISOLATED FORM",
   "dMEDIAL FORMcTHALcTHAL FINAL FORMdISOLATED FORMcTHEHcTHEH FINAL FORMdINITIAL FORMdISOLATED FORM",
   "dMEDIAL FORMcTHIN YEHcTTEHcTTEH FINAL FORMdINITIAL FORMdISOLATED FORMdMEDIAL FORMdWITH SMALL V",
   "cTTEHEHcTTEHEH FINAL FORMdINITIAL FORMdISOLATED FORMdMEDIAL FORMcUcU FINAL FORMdISOLATED FORM",
   "dWITH HAMZA ABOVEfABOVE ISOLATED FORMcUIGHUR KAZAKH KIRGHIZ ALEF MAKSURA INITIAL FORM",
   "hMEDIAL FORMcVEcVE FINAL FORMdISOLATED FORMcVEHcVEH FINAL FORMdINITIAL FORMdISOLATED FORM",
   "dMEDIAL FORMcWAWcWAW FINAL FORMdISOLATED FORMdWITH DOT ABOVEfWITHIN",
   "eEXTENDED ARABIC-INDIC DIGIT THREE ABOVEiTWO ABOVEeHAMZA ABOVEfABOVE FINAL FORMgISOLATED FORM",
   "eRINGeTWO DOTS ABOVEcYEHcYEH BARREEdBARREE FINAL FORMeISOLATED FORM",
   "eWITH EXTENDED ARABIC-INDIC DIGIT THREE ABOVEjTWO ABOVEfHAMZA ABOVEgABOVE FINAL FORM",
   "hISOLATED FORMdFINAL FORMdINITIAL FORMdISOLATED FORMdMEDIAL FORMdWITH HAMZA ABOVE",
   "fABOVE FINAL FORMgINITIAL FORMgISOLATED FORMgMEDIAL FORMeSMALL VeTAILeTHREE DOTS BELOW",
   "eTWO DOTS BELOW AND DOT ABOVEiHAMZA ABOVEiSMALL NOON ABOVEcYUcYU FINAL FORMdISOLATED FORMcZAH",
   "cZAH FINAL FORMdINITIAL FORMdISOLATED FORMdMEDIAL FORMcZAINcZAIN FINAL FORMdISOLATED FORM",
   "dWITH INVERTED V ABOVEbLIGATURE AIN WITH ALEF MAKSURA FINAL FORMgISOLATED FORM",
   "eJEEM INITIAL FORMfISOLATED FORMfWITH MEEM FINAL FORMhINITIAL FORMeMEEM INITIAL FORM",
   "fISOLATED FORMfWITH ALEF MAKSURA FINAL FORMgMEEM FINAL FORMhINITIAL FORMgYEH FINAL FORM",
   "eYEH FINAL FORMfISOLATED FORMcAKBAR ISOLATED FORMcALAYHAA AS-SALAAMcALAYHE ISOLATED FORM",
   "cALAYHI AS-SALAAMeSALAATU WAS-SALAAMcALAYHIM AS-SALAAMcALAYHIMAA AS-SALAAM",
   "cALEF MAKSURA WITH SUPERSCRIPT ALEF FINAL FORMhISOLATED FORMdWITH FATHATAN FINAL FORM",
   "fISOLATED FORMcALLAH ISOLATED FORMcAZZA WA JALLcBEH WITH ALEF MAKSURA FINAL FORMgISOLATED FORM",
   "eHAH INITIAL FORMfISOLATED FORMfWITH YEH FINAL FORMeHEH INITIAL FORMfMEDIAL FORM",
   "eJEEM INITIAL FORMfISOLATED FORMeKHAH INITIAL FORMfISOLATED FORMfWITH YEH FINAL FORM",
   "eMEEM FINAL FORMfINITIAL FORMfISOLATED FORMfMEDIAL FORMeNOON FINAL FORMeREH FINAL FORM",
   "eYEH FINAL FORMfISOLATED FORMeZAIN FINAL FORMcBISMILLAH AR-RAHMAN AR-RAHEEM",
   "cDAD WITH ALEF MAKSURA FINAL FORMgISOLATED FORMeHAH INITIAL FORMfISOLATED FORM",
   "fWITH ALEF MAKSURA FINAL FORMgYEH FINAL FORMeJEEM INITIAL FORMfISOLATED FORMeKHAH INITIAL FORM",
   "fISOLATED FORMfWITH MEEM FINAL FORMhINITIAL FORMeMEEM INITIAL FORMfISOLATED FORMeREH FINAL FORM",
   "fISOLATED FORMeYEH FINAL FORMfISOLATED FORMcFEH WITH ALEF MAKSURA FINAL FORMgISOLATED FORM",
   "eHAH INITIAL FORMfISOLATED FORMeJEEM INITIAL FORMfISOLATED FORMeKHAH INITIAL FORMfISOLATED FORM",
   "fWITH MEEM FINAL FORMhINITIAL FORMeMEEM INITIAL FORMfISOLATED FORMfWITH YEH FINAL FORM",
   "eYEH FINAL FORMfISOLATED FORMcGHAIN WITH ALEF MAKSURA FINAL FORMgISOLATED FORM",
   "eJEEM INITIAL FORMfISOLATED FORMeMEEM INITIAL FORMfISOLATED FORMfWITH ALEF MAKSURA FINAL FORM",
   "gMEEM FINAL FORMgYEH FINAL FORMeYEH FINAL FORMfISOLATED FORMcHAH WITH ALEF MAKSURA FINAL FORM",
   "gISOLATED FORMeJEEM INITIAL FORMfISOLATED FORMfWITH YEH FINAL FORMeMEEM INITIAL FORM",
   "fISOLATED FORMfWITH ALEF MAKSURA FINAL FORMgYEH FINAL FORMeYEH FINAL FORMfISOLATED FORM",
   "cHEH WITH ALEF MAKSURA ISOLATED FORMeJEEM INITIAL FORMfISOLATED FORMeMEEM INITIAL FORM",
   "fISOLATED FORMfWITH JEEM INITIAL FORMgMEEM INITIAL FORMeSUPERSCRIPT ALEF INITIAL FORM",
   "eYEH ISOLATED FORMcJALLAJALALOUHOUcJEEM WITH ALEF MAKSURA FINAL FORMgISOLATED FORM",
   "eHAH INITIAL FORMfISOLATED FORMfWITH ALEF MAKSURA FINAL FORMgYEH FINAL FORMeMEEM INITIAL FORM",
   "fISOLATED FORMfWITH ALEF MAKSURA FINAL FORMgHAH FINAL FORMhINITIAL FORMgYEH FINAL FORM",
   "eYEH FINAL FORMfISOLATED FORMcKAF WITH ALEF FINAL FORMfISOLATED FORMfMAKSURA FINAL FORM",
   "gISOLATED FORMeHAH INITIAL FORMfISOLATED FORMeJEEM INITIAL FORMfISOLATED FORMeKHAH INITIAL FORM",
   "fISOLATED FORMeLAM FINAL FORMfINITIAL FORMfISOLATED FORMfMEDIAL FORMeMEEM FINAL FORM",
   "fINITIAL FORMfISOLATED FORMfMEDIAL FORMfWITH MEEM FINAL FORMhINITIAL FORMgYEH FINAL FORM",
   "eYEH FINAL FORMfISOLATED FORMcKHAH WITH ALEF MAKSURA FINAL FORMgISOLATED FORMeHAH ISOLATED FORM",
   "eJEEM INITIAL FORMfISOLATED FORMeMEEM INITIAL FORMfISOLATED FORMeYEH FINAL FORMfISOLATED FORM",
   "cLAM WITH ALEF FINAL FORMfISOLATED FORMfMAKSURA FINAL FORMgISOLATED FORM",
   "fWITH HAMZA ABOVE FINAL FORMiISOLATED FORMhBELOW FINAL FORMiISOLATED FORM",
   "gMADDA ABOVE FINAL FORMiISOLATED FORMeHAH INITIAL FORMfISOLATED FORM",
   "fWITH ALEF MAKSURA FINAL FORMgMEEM FINAL FORMhINITIAL FORMgYEH FINAL FORMeHEH INITIAL FORM",
   "eJEEM INITIAL FORMfISOLATED FORMfWITH JEEM FINAL FORMhINITIAL FORMgMEEM FINAL FORMhINITIAL FORM",
   "gYEH FINAL FORMeKHAH INITIAL FORMfISOLATED FORMfWITH MEEM FINAL FORMhINITIAL FORM",
   "eMEEM FINAL FORMfINITIAL FORMfISOLATED FORMfMEDIAL FORMfWITH HAH FINAL FORMhINITIAL FORM",
   "gYEH FINAL FORMeYEH FINAL FORMfISOLATED FORMcMEEM WITH ALEF FINAL FORMfMAKSURA ISOLATED FORM",
   "eHAH INITIAL FORMfISOLATED FORMfWITH JEEM INITIAL FORMgMEEM INITIAL FORMgYEH FINAL FORM",
   "eJEEM INITIAL FORMfISOLATED FORMfWITH HAH INITIAL FORMgKHAH INITIAL FORMgMEEM INITIAL FORM",
   "gYEH FINAL FORMeKHAH INITIAL FORMfISOLATED FORMfWITH JEEM INITIAL FORMgMEEM INITIAL FORM",
   "gYEH FINAL FORMeMEEM FINAL FORMfINITIAL FORMfISOLATED FORMfWITH YEH FINAL FORM",
   "eYEH ISOLATED FORMcMOHAMMAD ISOLATED FORMcNOON WITH ALEF MAKSURA FINAL FORMgISOLATED FORM",
   "eHAH INITIAL FORMfISOLATED FORMfWITH ALEF MAKSURA FINAL FORMgMEEM INITIAL FORMgYEH FINAL FORM",
   "eHEH INITIAL FORMfMEDIAL FORMeJEEM INITIAL FORMfISOLATED FORMfWITH ALEF MAKSURA FINAL FORM",
   "gHAH FINAL FORMhINITIAL FORMgMEEM FINAL FORMhINITIAL FORMgYEH FINAL FORMeKHAH INITIAL FORM",
   "fISOLATED FORMeMEEM FINAL FORMfINITIAL FORMfISOLATED FORMfMEDIAL FORM",
   "fWITH ALEF MAKSURA FINAL FORMgYEH FINAL FORMeNOON FINAL FORMeREH FINAL FORMeYEH FINAL FORM",
   "fISOLATED FORMeZAIN FINAL FORMcQAF WITH ALEF MAKSURA FINAL FORMgISOLATED FORMeHAH INITIAL FORM",
   "fISOLATED FORMeMEEM INITIAL FORMfISOLATED FORMfWITH HAH FINAL FORMhINITIAL FORMgMEEM FINAL FORM",
   "gYEH FINAL FORMeYEH FINAL FORMfISOLATED FORMcQALA USED AS KORANIC STOP SIGN ISOLATED FORM",
   "cQUDDISA SIRRAHcRADI ALLAAHU ANHeANHAAeANHUMeANHUMAAeANHUNNAcRAHIMAHU ALLAAHcRAHIMAHUM ALLAAH",
   "cRASOUL ISOLATED FORMcREH WITH SUPERSCRIPT ALEF ISOLATED FORMcSAD WITH ALEF MAKSURA FINAL FORM",
   "gISOLATED FORMeHAH INITIAL FORMfISOLATED FORMfWITH HAH FINAL FORMhINITIAL FORMgYEH FINAL FORM",
   "eKHAH INITIAL FORMeMEEM INITIAL FORMfISOLATED FORMfWITH MEEM FINAL FORMhINITIAL FORM",
   "eREH FINAL FORMfISOLATED FORMeYEH FINAL FORMfISOLATED FORMcSALAAMUHU ALAYNAA",
   "cSALAM ISOLATED FORMcSALLA ISOLATED FORMdUSED AS KORANIC STOP SIGN ISOLATED FORM",
   "cSALLALLAAHU ALAYHI WA-AALIHcSALLALLAHOU ALAYHE WASALLAMcSALLALLAHU ALAYHI WAAALIHEE WA-SALLAM",
   "cSEEN WITH ALEF MAKSURA FINAL FORMgISOLATED FORMeHAH INITIAL FORMfISOLATED FORMfMEDIAL FORM",
   "fWITH JEEM INITIAL FORMeHEH INITIAL FORMfMEDIAL FORMeJEEM INITIAL FORMfISOLATED FORM",
   "fMEDIAL FORMfWITH ALEF MAKSURA FINAL FORMgHAH INITIAL FORMeKHAH INITIAL FORMfISOLATED FORM",
   "fMEDIAL FORMfWITH ALEF MAKSURA FINAL FORMgYEH FINAL FORMeMEEM INITIAL FORMfISOLATED FORM",
   "fMEDIAL FORMfWITH HAH FINAL FORMhINITIAL FORMgJEEM INITIAL FORMgMEEM FINAL FORMhINITIAL FORM",
   "eREH FINAL FORMfISOLATED FORMeYEH FINAL FORMfISOLATED FORMcSHADDA WITH DAMMA ISOLATED FORM",
   "fMEDIAL FORMeDAMMATAN ISOLATED FORMeFATHA ISOLATED FORMfMEDIAL FORMeKASRA ISOLATED FORM",
   "fMEDIAL FORMeKASRATAN ISOLATED FORMeSUPERSCRIPT ALEF ISOLATED FORM",
   "cSHEEN WITH ALEF MAKSURA FINAL FORMgISOLATED FORMeHAH FINAL FORMfINITIAL FORMfISOLATED FORM",
   "fMEDIAL FORMfWITH MEEM FINAL FORMhINITIAL FORMgYEH FINAL FORMeHEH INITIAL FORMfMEDIAL FORM",
   "eJEEM FINAL FORMfINITIAL FORMfISOLATED FORMfMEDIAL FORMfWITH YEH FINAL FORMeKHAH FINAL FORM",
   "fINITIAL FORMfISOLATED FORMfMEDIAL FORMeMEEM FINAL FORMfINITIAL FORMfISOLATED FORMfMEDIAL FORM",
   "fWITH KHAH FINAL FORMhINITIAL FORMgMEEM FINAL FORMhINITIAL FORMeREH FINAL FORMfISOLATED FORM",
   "eYEH FINAL FORMfISOLATED FORMcSUBHAANAHU WA TAAALAAcTABAARAKA WA-TAAALAA",
   "cTAH WITH ALEF MAKSURA FINAL FORMgISOLATED FORMeHAH INITIAL FORMfISOLATED FORM",
   "eMEEM INITIAL FORMfISOLATED FORMfMEDIAL FORMfWITH HAH FINAL FORMhINITIAL FORMgMEEM INITIAL FORM",
   "gYEH FINAL FORMeYEH FINAL FORMfISOLATED FORMcTEH WITH ALEF MAKSURA FINAL FORMgISOLATED FORM",
   "eHAH INITIAL FORMfISOLATED FORMfWITH JEEM FINAL FORMhINITIAL FORMgMEEM INITIAL FORM",
   "eHEH INITIAL FORMfMEDIAL FORMeJEEM INITIAL FORMfISOLATED FORMfWITH ALEF MAKSURA FINAL FORM",
   "gMEEM INITIAL FORMgYEH FINAL FORMeKHAH INITIAL FORMfISOLATED FORMfWITH ALEF MAKSURA FINAL FORM",
   "gMEEM INITIAL FORMgYEH FINAL FORMeMEEM FINAL FORMfINITIAL FORMfISOLATED FORMfMEDIAL FORM",
   "fWITH ALEF MAKSURA FINAL FORMgHAH INITIAL FORMgJEEM INITIAL FORMgKHAH INITIAL FORM",
   "gYEH FINAL FORMeNOON FINAL FORMeREH FINAL FORMeYEH FINAL FORMfISOLATED FORMeZAIN FINAL FORM",
   "cTHAL WITH SUPERSCRIPT ALEF ISOLATED FORMcTHEH WITH ALEF MAKSURA FINAL FORMgISOLATED FORM",
   "eHEH MEDIAL FORMeJEEM ISOLATED FORMeMEEM FINAL FORMfINITIAL FORMfISOLATED FORMfMEDIAL FORM",
   "eNOON FINAL FORMeREH FINAL FORMeYEH FINAL FORMfISOLATED FORMeZAIN FINAL FORM",
   "cUIGHUR KIRGHIZ YEH WITH HAMZA ABOVE WITH ALEF MAKSURA FINAL FORMlINITIAL FORMlISOLATED FORM",
   "cWASALLAM ISOLATED FORMcYEH WITH ALEF MAKSURA FINAL FORMgISOLATED FORMeHAH INITIAL FORM",
   "fISOLATED FORMfWITH YEH FINAL FORMeHAMZA ABOVE WITH AE FINAL FORMiISOLATED FORMhALEF FINAL FORM",
   "iISOLATED FORMiMAKSURA FINAL FORMjISOLATED FORMhE FINAL FORMiINITIAL FORMiISOLATED FORM",
   "hHAH INITIAL FORMiISOLATED FORMhHEH INITIAL FORMiMEDIAL FORMhJEEM INITIAL FORMiISOLATED FORM",
   "hKHAH INITIAL FORMhMEEM FINAL FORMiINITIAL FORMiISOLATED FORMiMEDIAL FORMhNOON FINAL FORM",
   "hOE FINAL FORMiISOLATED FORMhREH FINAL FORMhU FINAL FORMiISOLATED FORMhWAW FINAL FORM",
   "iISOLATED FORMhYEH FINAL FORMiISOLATED FORMhYU FINAL FORMiISOLATED FORMhZAIN FINAL FORM",
   "eHEH INITIAL FORMfMEDIAL FORMeJEEM INITIAL FORMfISOLATED FORMfWITH YEH FINAL FORM",
   "eKHAH INITIAL FORMfISOLATED FORMeMEEM FINAL FORMfINITIAL FORMfISOLATED FORMfMEDIAL FORM",
   "fWITH MEEM FINAL FORMhINITIAL FORMgYEH FINAL FORMeNOON FINAL FORMeREH FINAL FORMeYEH FINAL FORM",
   "fISOLATED FORMeZAIN FINAL FORMcZAH WITH MEEM INITIAL FORMfISOLATED FORMfMEDIAL FORM",
   "bMADDA WAAJIBbMADDAH ABOVEbMARK NOON GHUNNAcSIDEWAYS NOON GHUNNAbMATHEMATICAL AINcALEFcBEHcDAD",
   "cDALcDOTLESS BEHdFEHdNOONdQAFcDOUBLE-STRUCK AINeBEHeDADeDALeFEHeGHAINeHAHeJEEMeKHAHeLAMeMEEM",
   "eNOONeQAFeREHeSADeSEENeSHEENeTAHeTEHeTHALeTHEHeWAWeYEHeZAHeZAINcFEHcGHAINcHAHcINITIAL AINdBEH",
   "dDADdFEHdGHAINdHAHdHEHdJEEMdKAFdKHAHdLAMdMEEMdNOONdQAFdSADdSEENdSHEENdTEHdTHEHdYEHcJEEMcKAF",
   "cKHAHcLAMcLOOPED AINdALEFdBEHdDADdDALdFEHdGHAINdHAHdHEHdJEEMdKHAHdLAMdMEEMdNOONdQAFdREHdSAD",
   "dSEENdSHEENdTAHdTEHdTHALdTHEHdWAWdYEHdZAHdZAINcMEEMcNOONcOPERATOR HAH WITH DAL",
   "dMEEM WITH HAH WITH TATWEELcQAFcREHcSADcSEENcSHEENcSTRETCHED AINdBEHdDADdDOTLESS BEHeFEHdFEH",
   "dGHAINdHAHdHEHdJEEMdKAFdKHAHdMEEMdNOONdQAFdSADdSEENdSHEENdTAHdTEHdTHEHdYEHdZAHcTAHcTAILED AIN",
   "dDADdDOTLESS NOONeQAFdGHAINdHAHdJEEMdKHAHdLAMdNOONdQAFdSADdSEENdSHEENdYEHcTEHcTHALcTHEHcWAWcYEH",
   "cZAHcZAINbNUMBER MARK ABOVEcSIGNbOPEN DAMMATANcFATHATANcKASRATANbPERCENT SIGN",
   "bPIASTRE MARK ABOVEbPLACE OF SAJDAHbPOETIC VERSE SIGNbPOUND MARK ABOVEbQUESTION MARK",
   "bRAISED ROUND DOTbRAYbREVERSED DAMMAbRIGHT ARROWHEAD ABOVEdABOVE WITH DOTdBELOW",
   "bROUNDED HIGH STOP WITH FILLED CENTREbSEMICOLONbSHADDAbSHADDA ISOLATED FORMcMEDIAL FORM",
   "bSIGN ALAYHE ASSALLAMcMISRAcRADI ALLAHOU ANHUcRAHMATULLAH ALAYHEcSAFHA",
   "cSALLALLAHOU ALAYHE WASSALLAMcSAMVATcSANAHcSINDHI AMPERSANDdPOSTPOSITION MENcTAKHALLUS",
   "bSMALL DAMMAcFARSI YEHcFATHAcHIGH AINdDOTLESS HEAD OF KHAHdFARSI YEHdFOOTNOTE MARKERdJEEM",
   "dLAM ALEFdLIGATURE ALEF WITH LAM WITH YEHeQAF WITH LAM WITH ALEF MAKSURA",
   "eSAD WITH LAM WITH ALEF MAKSURAdMADDAdMEEM INITIAL FORMeISOLATED FORMdNOONdNOON WITH KASRAdQAF",
   "dROUNDED ZEROdSADdSEENdSIGN SAFHAdTAHdTHREE DOTSdUPRIGHT RECTANGULAR ZEROdWAWdWORD AL-JUZ",
   "eAN-NISFeAR-RUBeAS-SAJDAeATH-THALATHAeQIFeSAHeSAKTAeWAQFAdYEHdYEH BARREE WITH TWO DOTS BELOW",
   "dZAHdZAINcKASRAcLOW MEEMdNOON WITH KASRAdSEENdWAWdWORD IMAALAeISHMAAMeTASHEELcWAWcYEH",
   "bSTART OF RUB EL HIZBbSUBSCRIPT ALEFbSUKUNbSUKUN BELOWcISOLATED FORMcMEDIAL FORM",
   "bSUPERSCRIPT ALEF MOKHASSASbSYMBOL DOT ABOVEdBELOWcDOUBLE VERTICAL BAR BELOWcFOUR DOTS ABOVE",
   "eBELOWcRINGcSMALL TAH ABOVEeBELOWcTHREE DOTS ABOVEeBELOWePOINTING DOWNWARDS ABOVEgBELOW",
   "cTWO DOTS ABOVEeBELOWeVERTICALLY ABOVEfBELOWcWASLA ABOVEbTAIL FRAGMENTbTATWEEL",
   "bTATWEEL WITH FATHATAN ABOVEdOVERSTRUCK HAMZAeWAWdTWO DOTS BELOWbTHOUSANDS SEPARATOR",
   "bTONE LOOP ABOVEdBELOWcONE DOT ABOVEeBELOWcTWO DOTS ABOVEeBELOWbTRIPLE DOT PUNCTUATION MARK",
   "bTURNED DAMMA BELOWbVERTICAL TAILbVOWEL SIGN DOT BELOWdINVERTED SMALL V ABOVEdSMALL V ABOVE",
   "bWAVY HAMZA BELOWbZWARAKAYaARABIC-INDIC CUBE ROOTcDIGIT EIGHTdFIVEdFOURdNINEdONEdSEVENdSIX",
   "dTHREEdTWOdZEROcFOURTH ROOTcPER MILLE SIGNdTEN THOUSAND SIGNaARCaARIES",
   "aARMENIAN ABBREVIATION MARKbAPOSTROPHEbCAPITAL LETTER AYBdBENdCAdCHAdCHEHdCOdDAdECHdEHdETdFEH",
   "dGHADdGIMdHOdINIdJAdJHEHdKEHdKENdLIWNdMENdNOWdOHdPEHdPIWRdRAdREHdSEHdSHAdTIWNdTOdVEWdVOdXEHdYI",
   "dYIWNdZAdZHEbCOMMAbDRAM SIGNbEMPHASIS MARKbEXCLAMATION MARKbFULL STOPbHYPHEN",
   "bMODIFIER LETTER LEFT HALF RINGbQUESTION MARKbSMALL LETTER AYBdBENdCAdCHAdCHEHdCOdDAdECHdEHdET",
   "dFEHdGHADdGIMdHOdINIdJAdJHEHdKEHdKENdLIWNdMENdNOWdOHdPEHdPIWRdRAdREHdSEHdSHAdTIWNdTOdTURNED AYB",
   "dVEWdVOdXEHdYIdYI WITH STROKEdYIWNdZAdZHEcLIGATURE ECH YIWNdMEN ECHeINIeNOWeXEHdVEW NOW",
   "aARROW POINTING DOWNWARDS THEN CURVING LEFTWARDSfRIGHTWARDScRIGHTWARDS THEN CURVING DOWNWARDS",
   "fSOUTH WESTfUPWARDScUPWARDS THEN NORTH WESTaARROWHEAD-SHAPED POINTERaARTICULATED LORRY",
   "aARTIST PALETTEaASCENDING NODEaASCIA SYMBOLaASSERTIONaASTERISKaASTERISK OPERATORaASTERISM",
   "aASTONISHED FACEaASTRAEAaASTRONOMICAL SYMBOL FOR URANUSaASYMPTOTICALLY EQUAL TOaATHLETIC SHOE",
   "aATOM SYMBOLaAUBERGINEaAUSTRAL SIGNaAUTO RICKSHAWaAUTOMATED TELLER MACHINEaAUTOMOBILE",
   "aAVESTAN ABBREVIATION MARKbLETTER AcAAcAANcAAOcAEcAEEcANcAOcBEcBHEcCEcDEcDHEcEcEEcFEcGEcGGEcGHE",
   "cHEcHMEcIcIIcJEcKEcLEcMEcNEcNGEcNGVEcNGYEcNNEcNYEcOcOOcPEcREcSEcSHEcSHYEcSSHEcTEcTHEcTTEcUcUU",
   "cVEcXEcXVEcXYEcYEcYYEcZEcZHEaAVOCADOaAXEaBABYaBABY ANGELbBOTTLEbCHICKbSYMBOLaBACK OF ENVELOPE",
   "bWITH LEFTWARDS ARROW ABOVEaBACK-TILTED SHADOWED WHITE RIGHTWARDS ARROW",
   "aBACKSLANTED SOUTH ARROW WITH HOOKED TAILeHORIZONTAL TAILaBACKSPACEaBACONaBACTRIAN CAMELaBADGER",
   "aBADMINTON RACQUET AND SHUTTLECOCKaBAGELaBAGGAGE CLAIMaBAGUETTE BREADaBALINESE ADEG ADEG",
   "bCARIK PAMUNGKAHcPARERENcSIKIbDIGIT EIGHTcFIVEcFOURcNINEcONEcSEVENcSIXcTHREEcTWOcZERO",
   "bLETTER AIKARAcAKARAcAKARA TEDUNGcARCHAIC JNYAcASYURA SASAKcBAcBA KEMBANGcCAcCA LACAcDAcDA MADU",
   "dMURDA ALPAPRANAeMAHAPRANAcEF SASAKcEKARAcGAcGA GORAcHAcIKARAcIKARA TEDUNGcJAcJA JERAcKA",
   "cKA MAHAPRANAcKAF SASAKcKHOT SASAKcLAcLA LENGAdLENGA TEDUNGcMAcNAcNA RAMBATcNGAcNYAcOKARA",
   "cOKARA TEDUNGcPAcPA KAPALcRAcRA REPAdREPA TEDUNGcSAcSA SAGAdSAPAcTAcTA LATIKdMURDA MAHAPRANA",
   "dTAWAcTZIR SASAKcUKARAcUKARA TEDUNGcVE SASAKcWAcYAcZAL SASAKbMUSICAL SYMBOL COMBINING BENDE",
   "eENDEPeGONGeJEGOGANeKEMPLIeKEMPLI WITH JEGOGANeKEMPULeKEMPUL WITH JEGOGANeTEGEHdDAENGdDAING",
   "dDANGdDANG GEDEeSURANGdDENGdDEUNGdDINGdDONGdDUNGdLEFT-HAND CLOSED PLAKgPLUKfOPEN PANGgPINGgPUNG",
   "dRIGHT-HAND CLOSED TAKgTUKfOPEN DAGgDUGbPAMADAbPAMADA LANTANGbPAMENENGbPANTIbPANTI LANTANG",
   "bSIGN BISAHcCECEKcREREKANcSURANGcULU CANDRAdRICEMbVOWEL SIGN LA LENGAeLENGA TEDUNGdPEPET",
   "dPEPET TEDUNGdRA REPAeREPA TEDUNGdSUKUdSUKU ILUTdTALINGdTALING REPAeREPA TEDUNGeTEDUNGdTEDUNG",
   "dULUdULU SARIbWINDUaBALL OF YARNaBALLET SHOESaBALLOONaBALLOON-SPOKED ASTERISK",
   "aBALLOT BOLD SCRIPT XbBOXbBOX WITH BALLOTdBOLD CHECKeSCRIPT XdCHECKdLIGHT XdSCRIPT XdXbSCRIPT X",
   "bXaBAMUM COLONbCOMBINING MARK KOQNDONdTUKWENTISbCOMMAbFULL STOPbLETTER AcEEcFAAMAEcFEEcFOMcFUcI",
   "cKAcKENcKETcKEUXcKIcKOcKOGHOMcKOVUUcKPAcKUcKYEEcLAcLEEEEcLIcLOQcLUcMcMAcMBAAcMBENcMEEEEcMENcMI",
   "cMOcMUcNAcNDAAcNGAcNGGAcNGKWAENcNIcNJAEMcNJEEcNJUAEcNSHAcNTEEcNTUUcNUcNUAEcNYIcOcPAcPEEcPEUX",
   "cPHASE-A FIRIeGBIEE FONeGHEUAEGHEUAEeGHEUAERAEeKAFAeKAQeKETeKEUKEUTNDAeKPOQeKUOQeLAPAQeLET KUT",
   "eLOMMAEeLUeLUAEPeMAEKEUPeMAEMeMAEMBGBIEEeMAEMKPENeMAEMVEUXeMAENYIeMAESIeMANSUAEeMAP PIEET",
   "eMBANYIeMBAQeMEUNJOMNDEUQeMGBASAeMON NGGEUAETeMOOMEUTeMOOMPUQeMVEUAENGAMeNAA MFONeNAQ",
   "eNDA LEERAEWAeNDAANGGEUAETeNENeNGANGUeNGGENeNGKUE MFONeNGKUENZEUMeNIKAeNJAMeNKAARAEeNKINDIeNSHA",
   "eNSHIEEeNTAPeNTAP MFAAfNTAAeNTOQPENeNYETeNYIeNYIT MONGKEUAEQeNZA MFONeNZUN MEUTePA LEERAEWA",
   "ePAAMePAARAEePAMSHAEePASHAEePETePON MFON PIPAEMBAgPIPAEMGBIEEfPA NJI PIPAEMBAhPIPAEMGBIEEePUP",
   "eROMeSEUNYAMeSHINDA PA NJIeSHIRAEeSHOQ NSHUT YUMeSHUENSHUETeSHUMeSISAeSONJAMeSOQeSOTeSUUeTEUAEN",
   "eTEUTEUWENeTITA MFONeTU MAEMBAeTUAEPeU YUQ NAEeUNKNOWNeVEEdB FEEeFEUXeGHEUGHENeGHEUGHEUAEMeKAM",
   "eKEUAEMeKEUPUQeKEUYEUXeKIEEMeKIQeLAANAEeLAM NSHUT NYAMeLETeLOM NTEUMeMAeMA NJEUAENAfNJUQA",
   "eMBA MAELEEeMBAARAEeMBEURIeMBIT MBAAKETeMBUOQeMEUQeMEUT NGGEETeMFIYAQeMFON TEUAEQeMONTIEEN",
   "eNDU NJAAeNGGAAMeNGGEU MBUeNGGUOQeNGGUOQ LARGEeNGKINDI MVOPeNGOMeNSENeNSHUETeNTIEE SHEUOQ",
   "eNYAEMAEeNYI NTEUMePARUMePEESHIePITePUNGAAMeSAKEUAEeSET TUeSHET NJAQeSHEUAEQTUeSIEEeSUEeTAAM",
   "eTU MAEMGBIEEfNSIEEeVEUMeWUAETeYAFU LEERAEWAeYEURAEdC BUNGeFUEeGBAYIeGHAPeGHARAEeKAA",
   "eKEN FATIGUEfLAWeKETeKEUKAQeKEUMeKEUSEUXeKEUSHEUAEPeKPARAQeKUOP NKAARAEeKUTeLAMeLAPeLIQeLU",
   "eMA KEUAERIfNSIEEeMAEMBAeMAESIeMBAA CABBAGE-TREEfPICKETeMBANYIeMBEEKEETeMBERAEeMBEUMeMBEUXeMBI",
   "eMBIRIEENeMBITeMBUAEMeMBUEeMGBASAQeMIEEeMUAEeNANSANAQeNAQeNDAMeNDAPeNDEUAEREEeNDEUTeNDIDA",
   "eNDOMBUeNGAQeNGGENeNGGUeNGGUAEN NYAMeNGGUEETeNGGUMeNGGUONeNGKAQeNGKUE MAEMBAeNGOMeNJAEMeNJAM",
   "eNJEEEEeNJEUXeNJUEQeNSAeNSEUAENeNSHAQeNSOMeNSUNeNSUOT NGOMeNTAAeNTENeNTEUNGBAeNTU MBIT",
   "eNYIR MKPARAQ MEUNeNZAeNZEUMePENePINePIRIEENeRUeSETFONeSEUXeSHIQeSHUEQeSUAETeTAASHAEeTET",
   "eTEUTEUXeTITA YUEeTITUAEPeVEUAEPENeVEUXeWANGKUOQeWUPeYAAeYEUQeYU MUOMAEeYUMeYUWOQdD FAA",
   "eFEUFEUAETeGHAAeGHEUAEeKETeKEUAETMEUNeKEUMeKEUOT MBUAEeKEUPeKUeKUNeKUOMeKUQeKWAETeKYEEeLEEEE",
   "eLETeLEUAEPeLEUMeLIEEeLOQeLUMeMeMAENJETeMALEERIeMBAAeMBAA SEVENeMBUOeMEEEEeMEUNeMEUTeMFEUAE",
   "eMFEUTeMFIEEeMFOeMFONeMGBEUNeMGBIEEeMGBOFUMeMONIeMUeMVOPeNDAMeNDEEeNDEUXeNDONeNGGAAMeNGGAAMAE",
   "eNGGAPeNGGEUXeNGGUOMeNGGWAENeNGKAPeNGKEUAEQeNGKEURIeNGKIEEeNGKUNeNGKYEEeNIeNJAPeNJEUAEMeNJEUT",
   "eNJIeNJIEEeNJUEQeNSHEEeNSHUTeNSIEEPeNSIEETeNSUMeNTEEeNTEUMeNTUUeNUeNYAMeNYETeNYIeNYUEePAPePEE",
   "ePEUTAEePIPePUQePUUTeRAEMeREN MUCHfOLDeRIIeSAPeSAQeSEUAEQeSHEEeSHEUAEeSHEUXeSHIIeSHOQeSHUeSOT",
   "eSUAEeSUEeSUUeTAEeTEEEEeTEUAENeTEUNeTEUTeTIeTOQeTUeTUOTeWAPeWUAENeYAEMMAEeYENeYUOMeYUOPeYUWOQ",
   "dE AeFAeFAQeFEEeFOMeFU CALLfIfREMEDYeFUEeFUETeGBETeGBEUXeGHAAMAEeGHETeGHEUAEeGHEUNeGHEUXeGHOMeI",
   "eKETeKEUAEeKEUXeKIeKOeKPEUXeKUETeKUOPeKUTeLAAMeLAPeLAQeLEUAEMeLOMeLOONeLOOTeLOQeLUeMAeMAEeMAEM",
   "eMAPeMAQeMBEEeMBEUMeMENeMFEUQeMGBAeMGBENeMIeMIEEeMONeMUAEeMVIeNAeNAEeNDAA MY HOUSEfSOFTNESS",
   "eNDAPeNDIAQeNDIQeNDUNeNGAeNGEUREUTeNGGEEEEeNGGEUAEeNGGEUAETeNGGUAESHAE NYAMeNGGUPeNGGURAEeNGKA",
   "eNGKAAMIeNGKEUAEMeNGKEUXeNGKUMeNGKUPeNGOPeNGOQeNGUAEeNGUAETeNJAEMLIeNJEEeNJEE EPOCHeNJEUXeNKOM",
   "eNSHIEEeNSHUEeNSHUOPeNTAPeNTUMeNYI BETWEENfCLEAVEReNZAQeNZUQeOePA PEOPLEfPLURALePAAePAAMePEEM",
   "ePEUTePEUXePIePIEEQePIETePOePOONePUePUAEePUAQePUEePUMeRAEeRAQeREUXeRIMGBAeSAAeSEEeSETeSHEUAEQ",
   "eSHIQeSHOeSHOQeSOMeSUAENeTAAeTAAQeTAEN NTEUMeTAMeTAQeTENeTEUeTEUAEQeTOOeTOONeTOQeTUAEeTUMeTUMAE",
   "eVEEeVEUAEeVOMeWEUXeWUEeWUOeYAPeYEUAEeYEUAETeYEUMeYEUXeYIEEeYITeYOQ COVERfSWIMMINGeYUAENeYUEQ",
   "eYUNeYUQdF EEeFOMeKAeKENeKETeKOeKPAeKUeKYEEeLAeLIeLOQeMeMAeMBAAeMBENeMEEEEeMOeNDAAeNGGAeNGKWAEN",
   "eNIeNJAEMeNJUAEeNSHAeNTEEeNUeNUAEeNYIePEEePEUXePUAEeREEeRENeREUXeRIEEeRIIeRUeSAMBAeSEUXeSHII",
   "eSHOeSHUeSIeSUUeTAAeTAEeTETeUeVUEQeWAeWUEeYAeYOQcPIcPUAEcPUEcRAEcREEcRENcREUXcRIEEcRIIcRUcSAMBA",
   "cSEUXcSHEUXcSHIIcSHOcSHUcSIcSUUcTAAcTAEcTENcTETcTIcUcWAcWUEcYAcYOQcYUQbNJAEMLIbQUESTION MARK",
   "bSEMICOLONaBANANAaBANJOaBANKaBANKNOTE WITH DOLLAR SIGNcEURO SIGNcPOUND SIGNcYEN SIGNaBAR CHART",
   "bOF SOAPaBARBER POLEaBASEBALLaBASKETaBASKETBALL AND HOOPaBASSA VAH COMBINING HIGH TONE",
   "dHIGH-LOW TONEdLOW TONEdLOW-MID TONEdMID TONEcFULL STOPcLETTER AdBAdCEdDHIIdDOdEdEEdENNIdFAdGAH",
   "dGBUdHWAHdIdJOdKAdKPAHdMBEdOdOOdPAdSEdTOdUdUWUdVUdWAdWADDAdYEINdYIEdZOaBAT",
   "aBATAK CONSONANT SIGN HdNGbLETTER AcBAcCAcDAcGAcHAcIcJAcKARO BAcLAcMAcMANDAILING HAdNAdSAcMBA",
   "cNAcNDAcNGAcNORTHERN TAcNYAcPAcPAKPAK WAcRAcSAcSIMALUNGUN AdGAdHAdLAdMAdPAdRAdSAdWAdYA",
   "cSOUTHERN TAcUcWAcYAbPANGOLATbPANONGONANbSIGN TOMPIbSYMBOL BINDU JUDULdNA METEKdPANGOLAT",
   "dPINARBORASbVOWEL SIGN EdEEdIdKARO IeOdOdPAKPAK EdUdU FOR SIMALUNGUN SAaBATHaBATHTUBaBATTERY",
   "aBEACH WITH UMBRELLAaBEAMED ASCENDING MUSICAL NOTESbDESCENDING MUSICAL NOTESbEIGHTH NOTES",
   "bSIXTEENTH NOTESaBEANSaBEAR FACEaBEARDED PERSONaBEATING HEARTaBEAVERaBECAUSEaBEDaBEER MUG",
   "aBEETLEaBELaBELLaBELL PEPPERbSYMBOLbWITH CANCELLATION STROKEaBELLHOP BELL",
   "aBENGALI ABBREVIATION SIGNbANJIbAU LENGTH MARKbCURRENCY DENOMINATOR SIXTEENcNUMERATOR FOURdONE",
   "dONE LESS THAN THE DENOMINATORdTHREEdTWObDIGIT EIGHTcFIVEcFOURcNINEcONEcSEVENcSIXcTHREEcTWO",
   "cZERObGANDA MARKbISSHARbLETTER AcAAcAIcAUcBAcBHAcCAcCHAcDAcDDAcDDHAcDHAcEcGAcGHAcHAcIcIIcJAcJHA",
   "cKAcKHAcKHANDA TAcLAcMAcNAcNGAcNNAcNYAcOcPAcPHAcRAcRA WITH LOWER DIAGONALeMIDDLE DIAGONALcRHA",
   "cRRAcSAcSHAcSSAcTAcTHAcTTAcTTHAcUcUUcVEDIC ANUSVARAcVOCALIC LdLLdRdRRcYAcYYAbRUPEE MARKcSIGN",
   "bSANDHI MARKbSIGN ANUSVARAcAVAGRAHAcCANDRABINDUcNUKTAcVIRAMAcVISARGAbVOWEL SIGN AAdAIdAUdEdIdII",
   "dOdUdUUdVOCALIC LeLLeReRRaBENT ARROW POINTING DOWNWARDS THEN NORTH EASTaBENTO BOXaBENZENE RING",
   "bRING WITH CIRCLEaBET SYMBOLaBETWEENaBEVERAGE BOXaBHAIKSUKI DANDAbDIGIT EIGHTcFIVEcFOURcNINE",
   "cONEcSEVENcSIXcTHREEcTWOcZERObDOUBLE DANDAbGAP FILLER-1d2bHUNDREDS UNIT MARKbLETTER AcAAcAIcAU",
   "cBAcBHAcCAcCHAcDAcDDAcDDHAcDHAcEcGAcGHAcHAcIcIIcJAcJHAcKAcKHAcLAcMAcNAcNGAcNNAcNYAcOcPAcPHAcRA",
   "cSAcSHAcSSAcTAcTHAcTTAcTTHAcUcUUcVAcVOCALIC LdRdRRcYAbNUMBER EIGHTcEIGHTYcFIFTYcFIVEcFORTYcFOUR",
   "cNINEcNINETYcONEcSEVENcSEVENTYcSIXcSIXTYcTENcTHIRTYcTHREEcTWENTYcTWObSIGN ANUSVARAcAVAGRAHA",
   "cCANDRABINDUcVIRAMAcVISARGAbVOWEL SIGN AAdAIdAUdEdIdIIdOdUdUUdVOCALIC LeReRRbWORD SEPARATOR",
   "aBICYCLEaBICYCLISTaBIG REVERSE SOLIDUSbSOLIDUSaBIKINIaBILLED CAPaBILLIARDSaBIOHAZARD SIGNaBIRD",
   "aBIRTHDAY CAKEaBISONaBITCOIN SIGNaBITING LIPaBLACK BOWTIEbCENTRE WHITE STARbCHESS BISHOP",
   "cBISHOP ROTATED NINETY DEGREESeTWO HUNDRED SEVENTY DEGREEScEQUIHOPPER",
   "cEQUIHOPPER ROTATED NINETY DEGREEScKINGcKING ROTATED NINETY DEGREESeTWO HUNDRED SEVENTY DEGREES",
   "cKNIGHTcKNIGHT ROTATED FORTY-FIVE DEGREESeNINETY DEGREESeONE HUNDRED THIRTY-FIVE DEGREES",
   "eTHREE HUNDRED FIFTEEN DEGREESeTWO HUNDRED SEVENTY DEGREESgTWENTY-FIVE DEGREEScKNIGHT-BISHOP",
   "dQUEENdROOKcPAWNcPAWN ROTATED NINETY DEGREESeTWO HUNDRED SEVENTY DEGREEScQUEEN",
   "cQUEEN ROTATED NINETY DEGREESeTWO HUNDRED SEVENTY DEGREEScROOKcROOK ROTATED NINETY DEGREES",
   "eTWO HUNDRED SEVENTY DEGREEScTURNED BISHOPdKINGdKNIGHTdPAWNdQUEENdROOKbCIRCLEbCIRCLE FOR RECORD",
   "cWITH DOWN ARROWdTWO WHITE DOTSdWHITE DOT RIGHTbCLUB SUITbCROSS ON SHIELD",
   "bCURVED DOWNWARDS AND LEFTWARDS ARROWeRIGHTWARDS ARROWcLEFTWARDS AND DOWNWARDS ARROW",
   "eUPWARDS ARROWcRIGHTWARDS AND DOWNWARDS ARROWeUPWARDS ARROWcUPWARDS AND LEFTWARDS ARROW",
   "eRIGHTWARDS ARROWbDIAMONDbDIAMOND CENTREDcMINUS WHITE XcON CROSScSUITcWITH DOWN ARROW",
   "bDOWN POINTING BACKHAND INDEXbDOWN-POINTING DOUBLE TRIANGLEdISOSCELES RIGHT TRIANGLE",
   "dSMALL TRIANGLEdTRIANGLEbDOWNWARDS EQUILATERAL ARROWHEADbDRAUGHTS KINGcMANbDROPLETbFLAG",
   "bFLORETTEbFOLDERbFOUR POINTED STARbHARD SHELL FLOPPY DISKbHEARTbHEART SUITbHEXAGON",
   "bHORIZONTAL ELLIPSEbHOURGLASSbLARGE CIRCLEcSQUAREbLEFT LANE MERGEcPOINTING BACKHAND INDEXdINDEX",
   "bLEFT-POINTING DOUBLE TRIANGLEeTRIANGLE WITH VERTICAL BARdISOSCELES RIGHT TRIANGLEdPOINTER",
   "dSMALL TRIANGLEdTRIANGLEbLEFTWARDS BULLETcEQUILATERAL ARROWHEADbLOWER LEFT TRIANGLE",
   "cRIGHT TRIANGLEbLOZENGEbMEDIUM DIAMONDcDOWN-POINTING TRIANGLEeTRIANGLE CENTRED",
   "cLEFT-POINTING TRIANGLEeTRIANGLE CENTREDcLOZENGEcRIGHT-POINTING TRIANGLEeTRIANGLE CENTRED",
   "cSMALL DIAMONDdLOZENGEdSQUAREcSQUAREcUP-POINTING TRIANGLEeTRIANGLE CENTREDbMOON LILITHbNIB",
   "bOCTAGONbPARALLELOGRAMbPENNANTbPENTAGONbPUSHPINbQUESTION MARK ORNAMENTbRECTANGLE",
   "bRIGHT POINTING BACKHAND INDEXdINDEXbRIGHT-POINTING DOUBLE TRIANGLEeTRIANGLE WITH VERTICAL BAR",
   "dISOSCELES RIGHT TRIANGLEdPENTAGONdPOINTERdSMALL TRIANGLEdTRIANGLE",
   "dTRIANGLE WITH DOUBLE VERTICAL BARbRIGHTWARDS ARROWcARROWHEADcBULLETcEQUILATERAL ARROWHEAD",
   "bROSETTEbSAFETY SCISSORSbSCISSORSbSHOGI PIECEbSKULL AND CROSSBONESbSLIGHTLY SMALL CIRCLEdSQUARE",
   "bSMALL DIAMONDcLOZENGEcSQUAREcSTARbSMILING FACEbSNOWMANbSPADE SUITbSQUAREbSQUARE BUTTONcCENTRED",
   "cFOR STOPbSTARbSUN WITH RAYSbTELEPHONEbTINY DIAMONDcLOZENGEcSQUAREbTOUCHTONE TELEPHONEbTRUCK",
   "bTWO-WAY LEFT WAY TRAFFICbUNIVERSAL RECYCLING SYMBOLbUP POINTING BACKHAND INDEX",
   "bUP-POINTING DOUBLE TRIANGLEdISOSCELES RIGHT TRIANGLEdSMALL TRIANGLEdTRIANGLE",
   "bUPPER LEFT TRIANGLEcRIGHT TRIANGLEbUPWARDS EQUILATERAL ARROWHEADbVERTICAL ELLIPSEcRECTANGLE",
   "bVERY SMALL DIAMONDdLOZENGEdSQUAREaBLACK-FEATHERED NORTH EAST ARROWcRIGHTWARDS ARROW",
   "cSOUTH EAST ARROWbLETTER CAPITAL CdHdIdRdZaBLANK SYMBOLaBLOCK SEXTANT-1c12c123c1234c12345c12346",
   "c1235c12356c1236c124c1245c12456c1246c125c1256c126c13c134c1345c13456c1346c1356c136c14c145c1456",
   "c146c15c156c16c2c23c234c2345c23456c2346c235c2356c236c24c245c2456c25c256c26c3c34c345c3456c346c35",
   "c356c36c4c45c456c46c5c56c6aBLOSSOMaBLOWFISHaBLUE BOOKbHEARTaBLUEBERRIESaBOAR",
   "aBOLD EIGHT SPOKED ASTERISKbFIVE SPOKED ASTERISKbGREEK CROSSbSALTIREbSIX SPOKED ASTERISK",
   "bWHITE CIRCLEcSQUAREaBOMaBOMBaBONEaBOOKaBOOKMARKaBOOKMARK TABSaBOOKSaBOOMERANG",
   "aBOPOMOFO FINAL LETTER GdHdKdPdTbLETTER AcAHcAIcAINNcAMcANcANGcANNcAUcAUNNcBcBUcCcCHcDcEcEEcEH",
   "cEIcENcENGcENNcERcFcGcGHcGNcGUcGWcHcIcIHcIMcINNcINNNcIRcIUcJcJIcKcKWcLcLHcMcNcNGcNGGcNNcO",
   "cO WITH DOT ABOVEcOEcOMcONGcONNcOOcOUcPcQcRcScSHcTcUcUNNcVcXcZcZHcZIcZY",
   "aBOTTLE WITH POPPING CORKaBOTTOM ARC ANTICLOCKWISE ARROWbCURLY BRACKETbHALF BLACK CIRCLE",
   "cINTEGRALcLEFT PARENTHESIScRIGHT PARENTHESISbLEFT CORNERcCROPcHALF BRACKETbPARENTHESIS",
   "bRIGHT CORNERcCROPcHALF BRACKETbSQUARE BRACKETcBRACKET OVER TOP SQUARE BRACKET",
   "bTORTOISE SHELL BRACKETaBOUQUETaBOUQUET OF FLOWERSaBOW AND ARROWaBOWL OF HYGIEIAbWITH SPOON",
   "aBOWLINGaBOWTIEaBOWTIE WITH LEFT HALF BLACKcRIGHT HALF BLACK",
   "aBOX DRAWINGS DOUBLE DOWN AND HORIZONTALfLEFTfRIGHTdHORIZONTALdUP AND HORIZONTALfLEFTfRIGHT",
   "dVERTICALdVERTICAL AND HORIZONTALfLEFTfRIGHTcDOWN DOUBLE AND HORIZONTAL SINGLEfLEFT SINGLE",
   "fRIGHT SINGLEdHEAVY AND HORIZONTAL LIGHTfLEFT LIGHTgUP LIGHTfRIGHT LIGHTgUP LIGHT",
   "fUP HORIZONTAL LIGHTdLIGHT AND HORIZONTAL HEAVYfLEFT HEAVYgUP HEAVYfRIGHT HEAVYgUP HEAVY",
   "fUP HORIZONTAL HEAVYdSINGLE AND HORIZONTAL DOUBLEfLEFT DOUBLEfRIGHT DOUBLE",
   "cHEAVY DOUBLE DASH HORIZONTALfVERTICALdDOWNdDOWN AND HORIZONTALfLEFTfRIGHTdHORIZONTALdLEFT",
   "dLEFT AND LIGHT RIGHTdQUADRUPLE DASH HORIZONTALfVERTICALdRIGHTdTRIPLE DASH HORIZONTALfVERTICAL",
   "dUPdUP AND HORIZONTALfLEFTfLIGHT DOWNfRIGHTdVERTICALdVERTICAL AND HORIZONTALfLEFTfRIGHT",
   "cLEFT DOWN HEAVY AND RIGHT UP LIGHTdHEAVY AND RIGHT DOWN LIGHTgUP LIGHTgVERTICAL LIGHT",
   "dLIGHT AND RIGHT DOWN HEAVYgUP HEAVYgVERTICAL HEAVYdUP HEAVY AND RIGHT DOWN LIGHT",
   "cLIGHT ARC DOWN AND LEFTgRIGHTeUP AND LEFTgRIGHTdDIAGONAL CROSSeDIAMOND",
   "eMIDDLE LEFT TO LOWER CENTREiCENTRE TO MIDDLE RIGHThUPPER CENTRE TO MIDDLE RIGHT",
   "lRIGHT TO LOWER CENTREfRIGHT TO LOWER CENTREhUPPER CENTRE TO MIDDLE LEFT TO LOWER CENTRE",
   "eUPPER CENTRE TO MIDDLE LEFTiLEFT AND MIDDLE RIGHT TO LOWER CENTREjTO LOWER CENTRE",
   "lCENTRE TO MIDDLE RIGHTiRIGHTiRIGHT AND MIDDLE LEFT TO LOWER CENTREjTO LOWER CENTRE",
   "lCENTRE TO MIDDLE LEFTfLEFT TO LOWER RIGHTfRIGHT TO LOWER LEFTdDOUBLE DASH HORIZONTALfVERTICAL",
   "dDOWNdDOWN AND HORIZONTALfLEFTfRIGHTdHORIZONTALdHORIZONTAL WITH VERTICAL STROKEdLEFT",
   "dLEFT AND HEAVY RIGHTdQUADRUPLE DASH HORIZONTALfVERTICALdRIGHTdTRIPLE DASH HORIZONTALfVERTICAL",
   "dUPdUP AND HEAVY DOWNfHORIZONTALfLEFTfRIGHTdVERTICALdVERTICAL AND HORIZONTALfLEFTfRIGHT",
   "cRIGHT DOWN HEAVY AND LEFT UP LIGHTdHEAVY AND LEFT DOWN LIGHTgUP LIGHTgVERTICAL LIGHT",
   "dLIGHT AND LEFT DOWN HEAVYgUP HEAVYgVERTICAL HEAVYdUP HEAVY AND LEFT DOWN LIGHT",
   "cUP DOUBLE AND HORIZONTAL SINGLEfLEFT SINGLEfRIGHT SINGLEdHEAVY AND DOWN HORIZONTAL LIGHT",
   "fHORIZONTAL LIGHTfLEFT DOWN LIGHTgLIGHTfRIGHT DOWN LIGHTgLIGHTdLIGHT AND DOWN HORIZONTAL HEAVY",
   "fHORIZONTAL HEAVYfLEFT DOWN HEAVYgHEAVYfRIGHT DOWN HEAVYgHEAVYdSINGLE AND HORIZONTAL DOUBLE",
   "fLEFT DOUBLEfRIGHT DOUBLEcVERTICAL DOUBLE AND HORIZONTAL SINGLEfLEFT SINGLEfRIGHT SINGLE",
   "dHEAVY AND HORIZONTAL LIGHTfLEFT LIGHTfRIGHT LIGHTdLIGHT AND HORIZONTAL HEAVYfLEFT HEAVY",
   "fRIGHT HEAVYdSINGLE AND HORIZONTAL DOUBLEfLEFT DOUBLEfRIGHT DOUBLEaBOXING GLOVEaBOYaBOYS SYMBOL",
   "aBPHaBRAHMI DANDAbDIGIT EIGHTcFIVEcFOURcNINEcONEcSEVENcSIXcTHREEcTWOcZERObDOUBLE DANDAbLETTER A",
   "cAAcAIcAUcBAcBHAcCAcCHAcDAcDDAcDDHAcDHAcEcGAcGHAcHAcIcIIcJAcJHAcKAcKHAcLAcLLAcMAcNAcNGAcNNAcNYA",
   "cOcOLD TAMIL LLAeLLLAeNNNAeRRAeSHORT EfOcPAcPHAcRAcSAcSHAcSSAcTAcTHAcTTAcTTHAcUcUUcVAcVOCALIC L",
   "dLLdRdRRcYAbNUMBER EIGHTcEIGHTYcFIFTYcFIVEcFORTYcFOURcJOINERcNINEcNINETYcONEcONE HUNDRED",
   "dTHOUSANDcSEVENcSEVENTYcSIXcSIXTYcTENcTHIRTYcTHREEcTWENTYcTWObPUNCTUATION CRESCENT BARcDOT",
   "cDOUBLE DOTcLINEcLOTUSbSIGN ANUSVARAcCANDRABINDUcJIHVAMULIYAcOLD TAMIL VIRAMAcUPADHMANIYA",
   "cVISARGAbVIRAMAbVOWEL SIGN AAdAIdAUdBHATTIPROLU AAdEdIdIIdOdOLD TAMIL SHORT EgOdUdUUdVOCALIC L",
   "eLLeReRRaBRAILLE PATTERN BLANKcDOTS-1d12d123d1234d12345d123456d1234567d12345678d1234568d123457",
   "d1234578d123458d12346d123467d1234678d123468d12347d123478d12348d1235d12356d123567d1235678d123568",
   "d12357d123578d12358d1236d12367d123678d12368d1237d12378d1238d124d1245d12456d124567d1245678",
   "d124568d12457d124578d12458d1246d12467d124678d12468d1247d12478d1248d125d1256d12567d125678d12568",
   "d1257d12578d1258d126d1267d12678d1268d127d1278d128d13d134d1345d13456d134567d1345678d134568d13457",
   "d134578d13458d1346d13467d134678d13468d1347d13478d1348d135d1356d13567d135678d13568d1357d13578",
   "d1358d136d1367d13678d1368d137d1378d138d14d145d1456d14567d145678d14568d1457d14578d1458d146d1467",
   "d14678d1468d147d1478d148d15d156d1567d15678d1568d157d1578d158d16d167d1678d168d17d178d18d2d23d234",
   "d2345d23456d234567d2345678d234568d23457d234578d23458d2346d23467d234678d23468d2347d23478d2348",
   "d235d2356d23567d235678d23568d2357d23578d2358d236d2367d23678d2368d237d2378d238d24d245d2456d24567",
   "d245678d24568d2457d24578d2458d246d2467d24678d2468d247d2478d248d25d256d2567d25678d2568d257d2578",
   "d258d26d267d2678d268d27d278d28d3d34d345d3456d34567d345678d34568d3457d34578d3458d346d3467d34678",
   "d3468d347d3478d348d35d356d3567d35678d3568d357d3578d358d36d367d3678d368d37d378d38d4d45d456d4567",
   "d45678d4568d457d4578d458d46d467d4678d468d47d478d48d5d56d567d5678d568d57d578d58d6d67d678d68d7d78",
   "d8aBRAINaBREADaBREAK PERMITTED HEREaBREAST-FEEDINGaBREVEaBRICKaBRIDE WITH VEILaBRIDGE AT NIGHT",
   "aBRIEFCASEaBRIEFSaBROCCOLIaBROKEN BARbCIRCLE WITH NORTHWEST ARROWbHEARTaBROOMaBROWN HEARTaBS",
   "aBUBBLE TEAaBUBBLESaBUCKETaBUGaBUGINESE END OF SECTIONbLETTER AcBAcCAcDAcGAcHAcJAcKAcLAcMAcMPA",
   "cNAcNGAcNGKAcNRAcNYAcNYCAcPAcRAcSAcTAcVAcYAbPALLAWAbVOWEL SIGN AEdEdIdOdUaBUHID LETTER AcBAcDA",
   "cGAcHAcIcKAcLAcMAcNAcNGAcPAcRAcSAcTAcUcWAcYAbVOWEL SIGN IdUaBUILDING CONSTRUCTIONaBULLET",
   "aBULLET OPERATORaBULLHORNaBULLHORN WITH SOUND WAVESaBULLSEYEaBURRITOaBUSaBUS STOP",
   "aBUST IN SILHOUETTEaBUSTS IN SILHOUETTEaBUTTERaBUTTERFLYaBYTE ORDER MARK",
   "aBYZANTINE MUSICAL SYMBOL AGOGI ARGIeARGOTERIeGORGIeGORGOTERIeMESIeMETRIAePOLI ARGIfGORGI",
   "dANATRICHISMAdANTIKENOKYLISMAdANTIKENOMAdAPESO EKFONITIKONeEXO NEOdAPLIdAPODERMA ARCHAIONeNEO",
   "dAPOSTROFOI SYNDESMOS NEOeTELOUS ICHIMATOSdAPOSTROFOSdAPOSTROFOS DIPLIeNEOdAPOTHEMAdARGON",
   "dARGOSYNTHETONdARKTIKO DIeGAeKEeNIePAeVOUeZOdCHAMILIdCHAMILONdCHOREVMA ARCHAIONeNEO",
   "dCHROA KLITONeSPATHIeZYGOSdDASEIAdDIARGONdDIASTOLI APLI MEGALIfMIKRIeDIPLIeTHESEOS",
   "dDIESIS APLI DYO DODEKATAeDIGRAMMOS EX DODEKATAeMONOGRAMMOS TESSERA DODEKATAeTETARTIMORION",
   "eTRIGRAMMOS OKTO DODEKATAeTRITIMORIONdDIFTOGGOS OUdDIGORGONdDIGORGON PARESTIGMENON ARISTERA ANO",
   "gKATOfDEXIAdDIGRAMMA GGdDIPLIdDIPLI ARCHAIONdDYOdEKSTREPTONdELAFRONdENARXIS KAI FTHORA VOU",
   "dENDOFONONdEPEGERMAdETERON ARGOSYNTHETONePARAKALESMAdEXO EKFONITIKONdFANEROSIS DIFONIAS",
   "eMONOFONIASeTETRAFONIASdFHTORA SKLIRON CHROMA VASISdFTHORA ARCHAIONeARCHAION DEYTEROU ICHOU",
   "eDIATONIKI DIfKEfNANAfNI ANOgKATOfPAfZOeENARMONIOS ANTIFONIAeI YFESIS TETARTIMORION",
   "eMALAKON CHROMA DIFONIASgMONOFONIASeNAOS ICHOSeNENANOeSKLIRON CHROMA SYNAFIgVASISfDIATONON DI",
   "dGENIKI DIESISeYFESISdGORGON ARCHAIONeNEO ANOfKATOePARESTIGMENON ARISTERAfDEXIAdGORGOSYNTHETON",
   "dGORTHMIKON N APLOUNfDIPLOUNdGRONTHISMATAdICHADINdIMIDIARGONdIMIFONONdIMIFTHORAdIMIFTHORON",
   "dISAKIA TELOUS ICHIMATOSdISON ARCHAIONeNEOdKATAVA TROMIKONdKATAVASMAdKATHISTIdKENTIMA ARCHAION",
   "eNEO ANOfKATOfMESOdKENTIMATAdKENTIMATA ARCHAIONeNEO ANOfKATOfMESOdKLASMAdKLASMA ANOeKATO",
   "dKONTEVMAdKONTEVMA ALLOdKORONISdKOUFISMAdKRATIMA ALLOeARCHAIONeNEOdKRATIMATAdKRATIMOKOUFISMA",
   "dKRATIMOYPORROONdKREMASTIdKYLISMAdLEIMMA DYO CHRONONeENOS CHRONOUeIMISEOS CHRONOU",
   "eTESSARON CHRONONeTRION CHRONONdLEMOIdLYGISMAdMARTYRIA ALLI DEYTEROS ICHOSfPROTOS ICHOS",
   "eDEYTEROS ICHOSeLEGETOS ICHOSePLAGIOS ICHOSfTETARTOS ICHOSePROTOS ICHOSePROTOVARYS ICHOS",
   "eTETARTOS ICHOSfLEGETOS ICHOSeTRIFONIASeTRITOS ICHOSeVARYS ICHOSdMIKRON ISONdNANA",
   "dOLIGON ARCHAIONeNEOdOMALONdOXEIA DIPLIeEKFONITIKONeNEOdOXEIAI ARCHAIONdOYRANISMA ARCHAIONeNEO",
   "dPARAKALESMA ARCHAIONeNEOdPARAKLITIKIdPARAKLITIKI ARCHAIONeNEOdPARICHONdPELASTONdPELASTON NEO",
   "dPERISPOMENIdPETASMAdPETASTIdPETASTOKOUFISMAdPIASMA ARCHAIONeNEOdPSIFISTOLYGISMAdPSIFISTON",
   "dPSIFISTON NEOdPSIFISTOPARAKALESMAdPSIFISTOSYNAGMAdPSILIdPSILONdRAPISMAdREVMAdSAXIMATAdSEISMA",
   "dSEISMA NEOdSIMANSIS ARSEOSeARSEOS DISIMOUfTETRASIMOUfTRISIMOUeTHESEOSeTHESEOS DISIMOU",
   "fTETRASIMOUfTRISIMOUdSTAVROSdSTAVROS APODEXIAdSTIGMAdSTRAGGISMATAdSYNAGMA ARCHAIONeMETA STAVROU",
   "eNEOdSYNEVMAdSYRMAdSYRMATIKIdTELEIAdTESSERAdTETRAPLIdTHEMAdTHEMA APLOUNdTHEMATISMOS ESOeEXO",
   "dTHES KAI APOTHESdTHITAdTINAGMAdTRIAdTRIGORGONdTRIPLIdTROMIKOLYGISMAdTROMIKON ALLOeARCHAIONeNEO",
   "dTROMIKOPARAKALESMAdTROMIKOPSIFISTONdTROMIKOSYNAGMAdVAREIA DIPLIeEKFONITIKONeNEO",
   "dVAREIAI ARCHAIONdVATHYdXIRON KLASMAdYFEN ANOeKATOdYFESIS APLI DYO DODEKATA",
   "eDIGRAMMOS EX DODEKATAeMONOGRAMMOS TESSERA DODEKATAeTRIGRAMMOS OKTO DODEKATAeTRITIMORION",
   "dYPOKRISISdYPOKRISIS DIPLIdYPORROIdYPSILIaCACTUSaCADA UNAaCADUCEUSaCALENDARaCALL ME HANDaCAMERA",
   "aCAMERA WITH FLASHaCAMPINGaCANaCANADIAN SYLLABICS AcAAcAAIcAAYcAIcAIVILIK BcANcATHAPASCAN MdS",
   "cAYcBEAVER DENE LeRcBIBLE-CREE YcBLACKFOOT AdEdIdKAdKEdKIdKOdNAdNEdNIdNOdOdSdWdWAdWEdWIdWOcCcCA",
   "cCAAcCAAIcCARRIER CHAdCHEdCHEEdCHIdCHOdCHUdDEEdDENE GEEdDENTAL SdDIdDLAdDLEdDLEEdDLIdDLOdDLU",
   "dDZAdDZEdDZEEdDZIdDZOdDZUdEEdGAdGAAdGEdGEEdGHAdGHEdGHEEdGHIdGHOdGHUdGIdGOdGUdGWAdGWUdHdHEEdHI",
   "dHWAdHWEdHWEEdHWIdHWOdHWUdIdINITIAL ZdJAdJEdJEEdJIdJJAdJJEdJJEEdJJIdJJOdJJUdJOdJUdJWAdKHAdKHE",
   "dKHEEdKHIdKHOdKHUdKKdKKAdKKEdKKEEdKKIdKKOdKKUdLAdLEdLEEdLHAdLHEdLHEEdLHIdLHOdLHUdLIdLOdLUdMAdME",
   "dMEEdMIdMOdMUdNAdNEdNEEdNGdNIdNOdNUdPdPAdPEdPEEdPIdPOdPUdRAdREdREEdRIdROdRUdSAdSEdSEEdSHdSHA",
   "dSHEdSHEEdSHIdSHOdSHUdSIdSOdSUdTHAdTHEdTHEEdTHIdTHOdTHUdTLAdTLEdTLEEdTLHAdTLHEdTLHEEdTLHIdTLHO",
   "dTLHUdTLIdTLOdTLUdTSAdTSEdTSEEdTSIdTSOdTSUdTTAdTTEdTTEEdTTIdTTOdTTSAdTTSEdTTSEEdTTSIdTTSOdTTSU",
   "dTTUdWAdWEdWEEdWIdWOdWUdYAdYEdYEEdYIdYOdYUdZdZAdZEdZEEdZIdZOdZUcCEcCHI SIGNcCIcCIIcCOcCOOcCWA",
   "cCWAAcCWEcCWIcCWIIcCWOcCWOOcEcEASTERN WcENcFcFAcFAAcFAAIcFEcFIcFIIcFINAL ACUTEdBOTTOM HALF RING",
   "dDOUBLE ACUTEeSHORT VERTICAL STROKESdDOWN TACKdGRAVEdMIDDLE DOTdPLUSdRAISED DOTdRIGHT HALF RING",
   "dRINGdSHORT HORIZONTAL STROKEdSMALL RINGdTOP HALF RINGcFOcFOOcFULL STOPcFWAAcGLOTTAL STOPcHK",
   "cHYPHENcIcIIcINcKcKAcKAAcKAAIcKAYcKEcKIcKIIcKOcKOOcKWcKWAcKWAAcKWAYcKWEcKWIcKWIIcKWOcKWOOcLcLA",
   "cLAAcLAAIcLAYcLEcLHcLHAcLHAAcLHIcLHIIcLHOcLHOOcLIcLIIcLOcLOOcLWAcLWAAcLWEcLWIcLWIIcLWOcLWOOcM",
   "cMAcMAAcMAAIcMAYcMEcMEDIAL LdRcMHcMIcMIIcMOcMOOcMOOSE-CREE SKcMWAcMWAAcMWEcMWIcMWIIcMWOcMWOOcN",
   "cN-CREE THEeTHIeTHIIcNAcNAAcNAAIcNASKAPI CWAAdKWAAdMWAAdNWAAdS-WdSCWAdSKWdSKWAdSPWAdSTWAdSWAA",
   "dTWAAdWAAdWOOdYWAAcNATTILIK HAdHAAdHIdHIIdHOdHOOdSHRAdSHRAAdSHRIdSHRIIdSHROdSHROOcNAYcNEcNGcNGA",
   "cNGAAcNGAAIcNGAIcNGIcNGIIcNGOcNGOOcNHcNIcNIIcNNGcNNGAcNNGAAcNNGIcNNGIIcNNGOcNNGOOcNOcNOOcNOY",
   "cNUNAVIK HdHAdHAAdHEdHIdHIIdHOdHOOcNUNAVUT HcNWAcNWAAcNWEcNWIcNWIIcNWOcNWOOcOcOJIBWAY CdKdMdN",
   "dNWIdNWIIdNWOdNWOOdPdSdSHdTcONcOOcOYcPcPAcPAAcPAAIcPAYcPEcPIcPIIcPOcPOOcPOYcPWAcPWAAcPWEcPWI",
   "cPWIIcPWOcPWOOcPWOYcQcQAcQAAcQAAIcQAIcQIcQIIcQOcQOOcRcR-CREE REeRWEcRAcRAAcRAAIcRAYcREcRIcRII",
   "cROcROOcRWAcRWAAcRWEEcRWIcRWIIcRWOcRWOOcScSAcSAAcSAAIcSAYcSAYISI HAdHEdHIdHOdHOOdJIdJUdJUUdM",
   "dSHAdSHEdSHIdSHOdSHOOdSHWEdTHdYIcSEcSHcSHAcSHAAcSHAYcSHEcSHIcSHIIcSHOcSHOOcSHOYcSHWAcSHWAAcSHWE",
   "cSHWIcSHWIIcSHWOcSHWOOcSHWOYcSIcSIIcSOcSOOcSOUTH-SLAVEY KAHeKEHeKIHeKOHcSOYcSPAcSPEcSPIcSPOcSW",
   "cSWAcSWAAcSWEcSWIcSWIIcSWOcSWOOcTcTAcTAAcTAAIcTAYcTEcTHcTH-CREE THeTHAeTHAAeTHEeTHIeTHIIeTHO",
   "eTHOOcTHAcTHAAcTHEcTHIcTHIIcTHOcTHOOcTHWAcTHWAAcTHWEcTIcTIIcTLHAcTLHEcTLHIcTLHOcTLHOOcTLHWEcTO",
   "cTOOcTTAcTTEcTTHcTTHAcTTHAAcTTHEcTTHIcTTHOcTTHOOcTTHWEcTTIcTTOcTWAcTWAAcTWEcTWIcTWIIcTWOcTWOO",
   "cTYAcTYEcTYIcTYOcWAcWAAcWAYcWEcWEST-CREE CWAeCWAAeCWEeCWIeCWIIeCWOeCWOOeFWAAeKWAeKWAAeKWEeKWI",
   "eKWIIeKWOeKWOOeLeLAeLAAeLEeLOeLOOeLWAeLWAAeLWEeLWIeLWIIeLWOeLWOOeMeMWAeMWAAeMWEeMWIeMWIIeMWO",
   "eMWOOeNWAeNWAAeNWEePePWAePWAAePWEePWIePWIIePWOePWOOeReRAeREeRIeROeRWAAeSHWAeSHWAAeSHWEeSHWI",
   "eSHWIIeSHWOeSHWOOeSWAeSWAAeSWEeSWIeSWIIeSWOeSWOOeTHWAAeTWAeTWAAeTWEeTWIeTWIIeTWOeTWOOeWAeWAAeWE",
   "eWIeWIIeWOeWOOeYeYWAeYWAAeYWEeYWIeYWIIeYWOeYWOOcWESTERN WcWIcWIIcWOcWOOcWOODS-CREE FINAL THeTH",
   "eTHAeTHEeTHIeTHOeTHWAeTHWAAeTHWEEeTHWIeTHWIIeTHWOeTHWOOcYcY-CREE COOeKOOeLOOeMOOeNOOeOOePOO",
   "ePWAAeSOOeTOOeWeYOOcYAcYAAcYAAIcYAYcYEcYIcYIIcYOcYOOcYOYcYWAcYWAAcYWEcYWIcYWIIcYWOcYWOOaCANCEL",
   "aCANCEL CHARACTERbTAGaCANCELLATION XaCANCERaCANDLEaCANDYaCANNED FOODaCANOEaCAPITULUMaCAPRICORN",
   "aCAR SLIDINGaCARD FILE BOXbINDEXbINDEX DIVIDERSaCARE OFaCARETaCARET INSERTION POINT",
   "aCARIAN LETTER AcA2cBcC-18d39cDcD2cEcE2cGcG2cIcIIcKcK2cLcLDcLD2cMcMBcMB2cMB3cMB4cNcNDcNGcNNcOcP",
   "cP2cQcRcRRcScSHcSH2cSScSTcST2cTcTTcTT2cUcUUcUUUcUUU2cUUU3cUUUUcXaCARONaCAROUSEL HORSE",
   "aCARP STREAMERaCARPENTRY SAWaCARRIAGE RETURNaCARROTaCASTLEaCATaCAT FACEbFACE WITH TEARS OF JOY",
   "dWRY SMILEaCAUCASIAN ALBANIAN CITATION MARKcLETTER ALTdAORdBETdCARdCAYNdCHAdCHATdCHIdCHOYdCYAW",
   "dCYAYdDATdDYANdDZAYdDZYAYdEBdEYNdFAMdGHEYSdGIMdHEYTdINYAdIRBdIWNdJAYNdJHOXdKARdKIWdLANdLYITdMAQ",
   "dNOWCdONdPENdPIWRdQARdQAYdRATdSEYKdSHAdSHAKdSHOYdTASdTIWRdTYAYdVEYZdXEYNdYAYDdYOWDdZARLdZHA",
   "dZHILaCAUTION SIGNaCCHaCEDI SIGNaCEDILLAaCELTIC CROSSaCENT SIGNaCENTRE LINE SYMBOL",
   "aCENTRELINE LOW LINEbOVERLINEaCERESaCGJaCHAINSaCHAIRaCHAKMA AU MARKbDANDAbDIGIT EIGHTcFIVEcFOUR",
   "cNINEcONEcSEVENcSIXcTHREEcTWOcZERObDOUBLE DANDAbLETTER AAcBAAcBHAAcCAAcCHAAcDAAcDDAAcDDHAAcDHAA",
   "cEcGAAcGHAAcHAAcIcJAAcJHAAcKAAcKHAAcLAAcLHAAcMAAcNAAcNGAAcNNAAcNYAAcPAAcPHAAcRAAcSAAcTAAcTHAA",
   "cTTAAcTTHAAcUcVAAcWAAcYAAcYYAAbMAAYYAAbO MARKbQUESTION MARKbSECTION MARKbSIGN ANUSVARA",
   "cCANDRABINDUcVISARGAbVIRAMAbVOWEL SIGN AdAAdAIdAUdEdEIdIdIIdOdOIdUdUU",
   "aCHAM CONSONANT SIGN FINAL HeMeNGdLAdRAdWAdYAbDIGIT EIGHTcFIVEcFOURcNINEcONEcSEVENcSIXcTHREE",
   "cTWOcZERObLETTER AcAIcBAcBBAcBHAcCHAcCHHAcDAcDDAcDHAcEcFINAL CHdGdKdLdNdNGdPdRdSSdTdYcGAcGHAcHA",
   "cIcJAcJHAcKAcKHAcLAcMAcMUEcNAcNGAcNGUEcNHAcNHJAcNHUEcNUEcOcPAcPHAcPPAcRAcSAcSSAcTAcTHAcUcVAcYA",
   "bPUNCTUATION DANDAcDOUBLE DANDAcSPIRALcTRIPLE DANDAbVOWEL SIGN AAdAIdAUdEIdIdIIdOdOEdUdUE",
   "aCHARACTER TABULATIONbTABULATION SETcWITH JUSTIFICATIONbTIEaCHART WITH DOWNWARDS TREND",
   "cUPWARDS TRENDdTREND AND YEN SIGNaCHECK MARKaCHECKER BOARDbBOARD FILLaCHEERING MEGAPHONE",
   "aCHEESE WEDGEaCHEQUERED FLAGaCHEROKEE LETTER AcDAcDEcDIcDLAcDOcDUcDVcEcGAcGEcGIcGOcGUcGVcHAcHE",
   "cHIcHNAcHOcHUcHVcIcKAcLAcLEcLIcLOcLUcLVcMAcMEcMIcMOcMUcMVcNAcNAHcNEcNIcNOcNUcNVcOcQUAcQUEcQUI",
   "cQUOcQUUcQUVcScSAcSEcSIcSOcSUcSVcTAcTEcTIcTLAcTLEcTLIcTLOcTLUcTLVcTSAcTSEcTSIcTSOcTSUcTSVcUcV",
   "cWAcWEcWIcWOcWUcWVcYAcYEcYIcYOcYUcYVbSMALL LETTER AdDAdDEdDIdDLAdDOdDUdDVdEdGAdGEdGIdGOdGUdGV",
   "dHAdHEdHIdHNAdHOdHUdHVdIdKAdLAdLEdLIdLOdLUdLVdMAdMEdMIdMOdMUdMVdNAdNAHdNEdNIdNOdNUdNVdOdQUAdQUE",
   "dQUIdQUOdQUUdQUVdSdSAdSEdSIdSOdSUdSVdTAdTEdTIdTLAdTLEdTLIdTLOdTLUdTLVdTSAdTSEdTSIdTSOdTSUdTSVdU",
   "dVdWAdWEdWIdWOdWUdWVdYAdYEdYIdYOdYUdYVaCHERRIESaCHERRY BLOSSOMaCHESTNUTaCHI RHOaCHICKENaCHILD",
   "aCHILDREN CROSSINGaCHIPMUNKaCHIRONaCHOCOLATE BARaCHOPSTICKSaCHORASMIAN LETTER ALEPHcAYINcBETH",
   "cCURLED WAWcDALETHcGIMELcHEcHETHcKAPHcLAMEDHcMEMcNUNcPEcRESHcSAMEKHcSHINcSMALL ALEPHcTAWcWAW",
   "cYODHcZAYINbNUMBER FOURcONEcONE HUNDREDcTENcTHREEcTWENTYcTWOaCHRISTMAS TREEaCHURCHaCINEMA",
   "aCIRCLE DIVIDED BY HORIZONTAL BAR AND TOP HALF DIVIDED BY VERTICAL BAR",
   "bWITH ALL BUT UPPER LEFT QUADRANT BLACKcHORIZONTAL BARcLEFT HALF BLACKcLOWER HALF BLACK",
   "cRIGHT HALF BLACKcSMALL CIRCLE TO THE RIGHTcSUPERIMPOSED XcTWO HORIZONTAL STROKES TO THE RIGHT",
   "cUPPER HALF BLACKdRIGHT QUADRANT BLACKcVERTICAL FILLaCIRCLED ANTICLOCKWISE ARROW",
   "bANTICLOCKWISE-ROTATED DIVISION SIGNbASTERISK OPERATORbBOLD XbBULLETbC WITH OVERLAID BACKSLASH",
   "bCCbCDbCROSS FORMEEcFORMEE WITH FOUR DOTSeTWO DOTScPOMMEEbCROSSING LANESbDASHbDIGIT EIGHTcFIVE",
   "cFOURcNINEcONEcSEVENcSIXcTHREEcTWOcZERObDIVISION SIGNcSLASHbDOLLAR SIGN WITH OVERLAID BACKSLASH",
   "bDOT OPERATORbEQUALSbGREATER-THANbHANGUL CHIEUCHcCHIEUCH AcCIEUCcCIEUC AcHIEUHcHIEUH AcIEUNG",
   "cIEUNG AdUcKHIEUKHcKHIEUKH AcKIYEOKcKIYEOK AcMIEUMcMIEUM AcNIEUNcNIEUN AcPHIEUPHcPHIEUPH A",
   "cPIEUPcPIEUP AcRIEULcRIEUL AcSIOScSIOS AcTHIEUTHcTHIEUTH AcTIKEUTcTIKEUT A",
   "bHEAVY WHITE RIGHTWARDS ARROWbHORIZONTAL BAR WITH NOTCHbHUMAN FIGUREbIDEOGRAPH ACCEPTcADVANTAGE",
   "cALLIANCEcATTENTIONcCENTREcCONGRATULATIONcCOPYcCORRECTcEARTHcEIGHTcENTERPRISEcEXCELLENTcFEMALE",
   "cFINANCIALcFIREcFIVEcFOURcHAVEcHIGHcITEMcKINDERGARTENcKOTOcLABORcLEFTcLOWcMALEcMEDICINEcMETAL",
   "cMOONcNAMEcNIGHTcNINEcONEcPRINTcQUESTIONcRELIGIONcRESOURCEcRESTcRIGHTcSCHOOLcSECRETcSEVENcSIX",
   "cSOCIETYcSPECIALcSTOCKcSTUDYcSUITABLEcSUNcSUPERVISEcTENcTHREEcTWOcWATERcWOODbINFORMATION SOURCE",
   "bITALIC LATIN CAPITAL LETTER CfRbKATAKANA AcEcHAcHEcHIcHOcHUcIcKAcKEcKIcKOcKUcMAcMEcMIcMOcMUcNA",
   "cNEcNIcNOcNUcOcRAcREcRIcROcRUcSAcSEcSIcSOcSUcTAcTEcTIcTOcTUcUcWAcWEcWIcWOcYAcYOcYU",
   "bKOREAN CHARACTER CHAMKOdJUEUIbLATIN CAPITAL LETTER AeBeCeDeEeFeGeHeIeJeKeLeMeNeOePeQeReSeTeUeV",
   "eWeXeYeZcSMALL LETTER AeBeCeDeEeFeGeHeIeJeKeLeMeNeOePeQeReSeTeUeVeWeXeYeZbLESS-THANbMINUS",
   "bMULTIPLICATION SIGN WITH CIRCUMFLEX ACCENTbNUMBER EIGHTEENcEIGHTY ON BLACK SQUAREcELEVEN",
   "cFIFTEENcFIFTYcFIFTY ON BLACK SQUAREcFORTYcFORTY EIGHTdFIVEdFOURdNINEdON BLACK SQUAREdONEdSEVEN",
   "dSIXdTHREEdTWOcFOURTEENcNINETEENcSEVENTEENcSEVENTY ON BLACK SQUAREcSIXTEEN",
   "cSIXTY ON BLACK SQUAREcTENcTEN ON BLACK SQUAREcTHIRTEENcTHIRTYcTHIRTY EIGHTdFIVEdFOURdNINE",
   "dON BLACK SQUAREdONEdSEVENdSIXdTHREEdTWOcTWELVEcTWENTYcTWENTY EIGHTdFIVEdFOURdNINE",
   "dON BLACK SQUAREdONEdSEVENdSIXdTHREEdTWObOPEN CENTRE EIGHT POINTED STARbPARALLELbPERPENDICULAR",
   "bPLUSbPOSTAL MARKbREVERSE SOLIDUSbRING OPERATORbSQUAREbTIMESbTRIANGLEbTRIANGLE DOWN",
   "bVERTICAL BARbWHITE BULLETcSTARbWZbXbZERO WITH SLASHaCIRCULATION FUNCTIONaCIRCUMFLEX ACCENT",
   "aCIRCUS TENTaCITYSCAPEaCITYSCAPE AT DUSKaCJK RADICAL BAMBOOcBLUEcBOLT OF CLOTHcBONEcBOX",
   "cBRUSH ONEdTWOcC-SIMPLIFIED BIRDeCARTeDRAGONeEATeEVENeFISHeFLYeFROGeGATEeGOLDeHORSEeLEAFeLONG",
   "eSALTeSEEeSHELLeSILKeSPEECHeTANNED LEATHEReTOOTHeTURTLEeWINDcCHOKEcCITYcCIVILIANcCLIFFcCLOTHES",
   "cCOWcDEATHcDIVINATIONcDOGcEAT ONEdTHREEdTWOcEWEcEYEcFIREcFOOTcGHOSTcGRASS ONEdTHREEdTWOcHAND",
   "cHEADcHEART ONEdTWOcHORNcJ-SIMPLIFIED DRAGONeEVENeTOOTHeTURTLEcJADEcKNIFE ONEdTWOcLAME FOURdONE",
   "dTHREEdTWOcLONG ONEdTWOcMEATcMESHcMOONcMORTARcMOTHERcMOUND ONEdTWOcNET FOURdONEdTHREEdTWOcOLD",
   "cPAW ONEdTWOcPERSONcRAINcRAMcRAPcREPEATcSEALcSECOND ONEdTHREEdTWOcSHEEPcSILK",
   "cSIMPLIFIED HALF TREE TRUNKdHORNdWALKdWHEATdYELLOWcSMALL ONEdTWOcSNAKEcSNOUT ONEdTWOcSPIRIT ONE",
   "dTWOcSUNcTABLEcTHREADcTIGERcTURTLEcWALK ONEdTWOcWATER ONEdTWOcWEST ONEdTWObSTROKE BXGcDcHcHGcHP",
   "cHPWGcHXWGcHZcHZGcHZTcHZWcHZWGcHZZcHZZPcHZZZcHZZZGcNcPcPDcPGcPZcQcScSGcSPcSTcSWcSWGcSWZcSZcSZWG",
   "cSZZcTcTNcWGcXGaCLAMSHELL MOBILE PHONEaCLAPPER BOARDaCLAPPING HANDS SIGNaCLASSICAL BUILDING",
   "aCLEAR SCREEN SYMBOLaCLINKING BEER MUGSbGLASSESaCLIPBOARDaCLOCK FACE EIGHT OCLOCKcEIGHT-THIRTY",
   "cELEVEN OCLOCKcELEVEN-THIRTYcFIVE OCLOCKcFIVE-THIRTYcFOUR OCLOCKcFOUR-THIRTYcNINE OCLOCK",
   "cNINE-THIRTYcONE OCLOCKcONE-THIRTYcSEVEN OCLOCKcSEVEN-THIRTYcSIX OCLOCKcSIX-THIRTYcTEN OCLOCK",
   "cTEN-THIRTYcTHREE OCLOCKcTHREE-THIRTYcTWELVE OCLOCKcTWELVE-THIRTYcTWO OCLOCKcTWO-THIRTY",
   "aCLOCKWISE CLOSED CIRCLE ARROWbCONTOUR INTEGRALbDOWNWARDS AND UPWARDS OPEN CIRCLE ARROWS",
   "bGAPPED CIRCLE ARROWbINTEGRALbOPEN CIRCLE ARROWbRIGHT AND LEFT SEMICIRCLE ARROWS",
   "bRIGHTWARDS AND LEFTWARDS OPEN CIRCLE ARROWSgARROWS WITH CIRCLED ONE OVERLAY",
   "bTOP SEMICIRCLE ARROWbTRIANGLE-HEADED OPEN CIRCLE ARROWaCLOSE UPaCLOSED BOOK",
   "bINTERSECTION WITH SERIFSbLOCK WITH KEYbMAILBOX WITH LOWERED FLAGdRAISED FLAGbSUBSET",
   "bSUBSET OR EQUAL TObSUPERSETbSUPERSET OR EQUAL TObUMBRELLAbUNION WITH SERIFS",
   "dSERIFS AND SMASH PRODUCTaCLOUDaCLOUD WITH LIGHTNINGcRAINcSNOWcTORNADOaCLOWN FACEaCOAT",
   "aCOCKROACHaCOCKTAIL GLASSaCOCONUTaCOFFINaCOINaCOLLISION SYMBOLaCOLONaCOLON EQUALSbSIGN",
   "aCOMBINING ACUTE ACCENTcACCENT BELOWcTONE MARKbACUTE-GRAVE-ACUTEcMACRONbALMOST EQUAL TO ABOVE",
   "eBELOWbANNUITY SYMBOLbANTICLOCKWISE ARROW ABOVEcRING OVERLAYbASTERISK ABOVEcBELOWbBINDU BELOW",
   "bBREVEbBREVE BELOWbBREVE-MACRONbBRIDGE ABOVEcBELOWbCANDRABINDUbCARONbCARON BELOWbCEDILLA",
   "bCIRCUMFLEX ACCENTcACCENT BELOWbCLOCKWISE ARROW ABOVEcRING OVERLAYbCOMMA ABOVEcABOVE RIGHT",
   "cBELOWbCONJOINING MACRONcMACRON BELOWbCYRILLIC DASIA PNEUMATAcHUNDRED MILLIONS SIGN",
   "dTHOUSANDS SIGNcKAVYKAcLETTER AdBEdBIG YUSdCHEdDEdDJERVdEFdELdEMdENdERdESdES-TEdFITAdGHEdHA",
   "dHARD SIGNdIdIEdIOTIFIED AeBIG YUSeEdKAdLITTLE YUSdMONOGRAPH UKdOdOMEGAdPEdSHAdSHCHAdSOFT SIGN",
   "dTEdTSEdUdUKRAINIAN IEdVEdYATdYERUdYIdYUdZEdZHEcMILLIONS SIGNcPALATALIZATIONcPAYEROKcPOKRYTIE",
   "cPSILI PNEUMATAcTEN MILLIONS SIGNcTHOUSAND MILLIONS SIGNcTITLOcTITLO LEFT HALFdRIGHT HALFcVZMET",
   "bDELETION MARKbDEVANAGARI DIGIT EIGHTdFIVEdFOURdNINEdONEdSEVENdSIXdTHREEdTWOdZEROcLETTER AdKA",
   "dNAdPAdRAdUdVIcSIGN AVAGRAHAbDIAERESISbDIAERESIS BELOWbDIAERESIS-RINGbDOT ABOVEcABOVE LEFT",
   "dRIGHTcBELOWcBELOW LEFTbDOTTED ACUTE ACCENTcGRAVE ACCENTbDOUBLE ACUTE ACCENTcBREVEcBREVE BELOW",
   "cCIRCUMFLEX ABOVEcGRAVE ACCENTcINVERTED BREVEdBREVE BELOWcLOW LINEcMACRONcMACRON BELOW",
   "cOPEN MARK BELOWcOVERLINEcPARENTHESES ABOVEcPLUS SIGN ABOVEeBELOWcRIGHTWARDS ARROW BELOW",
   "cRING BELOWcTILDEcTILDE LEFT HALFdRIGHT HALFcVERTICAL LINE ABOVEeBELOWdSTROKE OVERLAY",
   "bDOUBLED CIRCUMFLEX ACCENTbDOWN TACK BELOWbDOWNWARDS ARROWbENCLOSING CIRCLEcCIRCLE BACKSLASH",
   "cDIAMONDcKEYCAPcSCREENcSQUAREcUPWARD POINTING TRIANGLEbEQUALS SIGN BELOWbFERMATA",
   "bFOUR DOTS ABOVEbGLAGOLITIC LETTER AZUdBIG YUSdBUKYdCHRIVIdDJERVIdDOBROdFITAdFRITUdGLAGOLIdHERU",
   "dIdINITIAL IZHEdIOTATED BIG YUSeSMALL YUSdIZHEdKAKOdLJUDIJEdMYSLITEdNASHIdONUdPOKOJIdRITSIdSHA",
   "dSHTAdSLOVOdSMALL YUSdTSIdTVRIDOdUKUdVEDEdYATIdYERIdYERUdYESTUdYOdYUdZEMLJAdZHIVETE",
   "bGRANTHA DIGIT FIVEdFOURdONEdSIXdTHREEdTWOdZEROcLETTER AdKAdNAdPAdVIbGRAPHEME JOINER",
   "bGRAVE ACCENTcACCENT BELOWcTONE MARKbGRAVE-ACUTE-GRAVEcMACRONbGREEK DIALYTIKA TONOScKORONIS",
   "cMUSICAL PENTASEMEdTETRASEMEdTRISEMEcPERISPOMENIcYPOGEGRAMMENIbHOMOTHETIC ABOVEbHOOK ABOVEbHORN",
   "bINFINITYbINVERTED BREVEcBREVE BELOWcBRIDGE BELOWcDOUBLE ARCH ABOVEeBELOWbIS BELOW",
   "bKATAKANA-HIRAGANA SEMI-VOICED SOUND MARKdVOICED SOUND MARKbKAVYKA ABOVE LEFTdRIGHT",
   "bLATIN LETTER SMALL CAPITAL GfLfMfNfRcSMALL LETTER AeA WITH DIAERESISeAEeALPHAeAOeAVeBeBETAeC",
   "eC CEDILLAeDeEeESHeETHeFeFLATTENED OPEN A ABOVEeGeHeIeINSULAR DfGfRfTeKeL",
   "eL WITH DOUBLE MIDDLE TILDEeLONG SeMeNeOeO WITH DIAERESISgLIGHT CENTRALIZATION STROKEePeR",
   "eR BELOWfROTUNDAeSeSCHWAeTeTURNED W BELOWeUeU WITH DIAERESISgLIGHT CENTRALIZATION STROKEeVeW",
   "eW BELOWeXeZbLEFT ANGLE ABOVEdBELOWcARROW ABOVEdBELOWcARROWHEAD ABOVEdBELOWcHALF RING ABOVE",
   "eBELOWcHARPOON ABOVEcPARENTHESIS ABOVE LEFTdBELOW LEFTcRIGHT ARROW ABOVEeBELOWcTACK BELOW",
   "bLEFTWARDS ARROW OVERLAYcHARPOON WITH BARB DOWNWARDSbLIGATURE LEFT HALFdHALF BELOWcRIGHT HALF",
   "dHALF BELOWbLIGHT CENTRALIZATION STROKE BELOWbLONG DOUBLE SOLIDUS OVERLAYcSOLIDUS OVERLAY",
   "cSTROKE OVERLAYcVERTICAL LINE OVERLAYbLOW LINEbMACRONbMACRON BELOWcLEFT HALFdHALF BELOW",
   "cRIGHT HALFdHALF BELOWbMACRON-ACUTEcBREVEcGRAVEbMINUS SIGN BELOWbNOT TILDE ABOVE",
   "bNUMBER SIGN ABOVEbOGONEKbOGONEK ABOVEbOLD PERMIC LETTER ANeDOIeNENOEeSIIeZATAbOPEN MARK BELOW",
   "bOVERLINEbPALATALIZED HOOK BELOWbPARENTHESES ABOVEcBELOWcOVERLAYbPLUS SIGN ABOVEdBELOW",
   "bRETROFLEX HOOK BELOWbREVERSE SOLIDUS OVERLAYbREVERSED COMMA ABOVEbRIGHT ARROW ABOVEdBELOW",
   "cARROWHEAD ABOVEdAND DOWN ARROWHEAD BELOWeUP ARROWHEAD BELOWdBELOWcHALF RING ABOVEeBELOW",
   "cHARPOON ABOVEcPARENTHESIS ABOVE RIGHTdBELOW RIGHTcTACK BELOW",
   "bRIGHTWARDS HARPOON WITH BARB DOWNWARDSbRING ABOVEcBELOWcOVERLAYbSEAGULL BELOW",
   "bSHORT SOLIDUS OVERLAYcSTROKE OVERLAYcVERTICAL LINE OVERLAYbSNAKE BELOWbSQUARE BELOW",
   "cBRACKETS ABOVEbSTRONG CENTRALIZATION STROKE BELOWbSUSPENSION MARKbTHREE DOTS ABOVEbTILDE",
   "bTILDE BELOWcLEFT HALF BELOWcOVERLAYcRIGHT HALF BELOWbTRIPLE ACUTE ACCENTcDOTcUNDERDOT",
   "bTURNED COMMA ABOVEbUP TACK ABOVEdBELOWbUPWARDS ARROW BELOWbUR ABOVEbUS ABOVE",
   "bVERTICAL LINE ABOVEdBELOWcTILDEbWIDE BRIDGE ABOVEcINVERTED BRIDGE BELOWbWIGGLY LINE BELOW",
   "bX ABOVEcBELOWbX-X BELOWbZIGZAG ABOVEcBELOWaCOMETaCOMMAaCOMMERCIAL ATbMINUS SIGNaCOMPASS",
   "aCOMPLEMENTaCOMPOSITION SYMBOLaCOMPRESSIONaCONFETTI BALLaCONFOUNDED FACEaCONFUSED FACE",
   "aCONGRUENT WITH DOT ABOVEaCONICAL TAPERaCONJUNCTIONaCONSTRUCTION SIGNbWORKERaCONTAINS AS MEMBER",
   "cNORMAL SUBGROUPdSUBGROUP OR EQUAL TObWITH LONG HORIZONTAL STROKEcOVERBAR",
   "cVERTICAL BAR AT END OF HORIZONTAL STROKEaCONTINUOUS UNDERLINE SYMBOLaCONTOUR INTEGRAL",
   "aCONTROL KNOBSbSEQUENCE INTRODUCERaCONVENIENCE STOREaCOOKED RICEaCOOKIEaCOOKING",
   "aCOPTIC CAPITAL LETTER AKHMIMIC KHEIdALFAdBOHAIRIC KHEIdCROSSED SHEIdCRYPTOGRAMMIC EIEeGANGIA",
   "eNIeSHEIdDALDAdDEIdDIALECT-P ALEFfHORIfKAPAfNIdEIEdFEIdFIdGAMMAdGANGIAdHATEdHORIdIAUDAdKAPA",
   "dKHEIdKHIdKSIdL-SHAPED HAdLAULAdMIdNIdOdOLD COPTIC AINfDJAfESHfGANGIAfHAfHATfHEIfHORIfOOUfSHEI",
   "fSHIMAeNUBIAN NGIfNYIfSHIMAfWAUdOOUdPIdPSIdROdSAMPIdSHEIdSHIMAdSIMAdSOUdTAUdTHETHEdUAdVIDAdZATA",
   "bCOMBINING NI ABOVEcSPIRITUS ASPERdLENISbEPACT DIGIT EIGHTdFIVEdFOURdNINEdONEdSEVENdSIXdTHREE",
   "dTWOcNUMBER EIGHT HUNDREDdEIGHTYdFIFTYdFIVE HUNDREDdFORTYdFOUR HUNDREDdNINE HUNDREDdNINETY",
   "dONE HUNDREDdSEVEN HUNDREDdSEVENTYdSIX HUNDREDdSIXTYdTENdTHIRTYdTHREE HUNDREDdTWENTY",
   "dTWO HUNDREDcTHOUSANDS MARKbFRACTION ONE HALFbFULL STOPbMORPHOLOGICAL DIVIDER",
   "bOLD NUBIAN DIRECT QUESTION MARKdFULL STOPdINDIRECT QUESTION MARKdVERSE DIVIDER",
   "bSMALL LETTER AKHMIMIC KHEIdALFAdBOHAIRIC KHEIdCROSSED SHEIdCRYPTOGRAMMIC EIEeGANGIAeNIeSHEI",
   "dDALDAdDEIdDIALECT-P ALEFfHORIfKAPAfNIdEIEdFEIdFIdGAMMAdGANGIAdHATEdHORIdIAUDAdKAPAdKHEIdKHI",
   "dKSIdL-SHAPED HAdLAULAdMIdNIdOdOLD COPTIC AINfDJAfESHfGANGIAfHAfHATfHEIfHORIfOOUfSHEIfSHIMA",
   "eNUBIAN NGIfNYIfSHIMAfWAUdOOUdPIdPSIdROdSAMPIdSHEIdSHIMAdSIMAdSOUdTAUdTHETHEdUAdVIDAdZATA",
   "bSYMBOL KAIcKHI ROcMI ROcPI ROcSHIMA SIMAcSTAUROScTAU ROaCOPYLEFT SYMBOLaCOPYRIGHT SIGNaCORAL",
   "aCORNISH VERSE DIVIDERaCORRESPONDS TOaCOUCH AND LAMPaCOUNTERBOREaCOUNTERSINK",
   "aCOUNTING ROD TENS DIGIT EIGHTeFIVEeFOUReNINEeONEeSEVENeSIXeTHREEeTWOcUNIT DIGIT EIGHTeFIVE",
   "eFOUReNINEeONEeSEVENeSIXeTHREEeTWOaCOUPLE WITH HEARTaCOWaCOW FACEaCRaCRABaCREDIT CARD",
   "aCRESCENT MOONaCRICKETaCRICKET BAT AND BALLaCROCODILEaCROISSANTaCROSS MARKbOF JERUSALEM",
   "cLORRAINEbPATTY WITH LEFT CROSSBARdRIGHT CROSSBARbPOMMEEbPOMMEE WITH HALF-CIRCLE BELOW",
   "aCROSSED FLAGSbNEGATIVE SQUARED LATIN CAPITAL LETTER PbSWORDSaCROSSING LANESaCROWNaCRUTCH",
   "aCRUZEIRO SIGNaCRYING CAT FACEbFACEaCRYSTAL BALLaCSIaCUBE ROOTaCUCUMBER",
   "aCUNEIFORM NUMERIC SIGN EIGHT ASHeDISHeGESH2eSHAR2eUeU VARIANT FORMeVARIANT FORM USSUgUSSU3",
   "dELAMITE FIFTYeFORTYeONE THIRDeTWO THIRDSdFIVE ASHeASH TENUeBAN2eBAN2 VARIANT FORMeBURUeDISH",
   "eGESH2eGESHUeSHAR2eSHARUeSIXTHS DISHeUeU VARIANT FORMdFOUR ASHeASH TENUeBAN2eBAN2 VARIANT FORM",
   "eBURUeDISHeGESH2eGESHUeSHAR2eSHARUeUeU VARIANT FORMeVARIANT FORM LIMMUgLIMMU AhBgLIMMU4",
   "dNIGIDAESHdNIGIDAMINdNINE ASHeDISHeGESH2eSHAR2eUeU VARIANT FORMeVARIANT FORM ILIMMUgILIMMU A",
   "gILIMMU3gILIMMU4dOLD ASSYRIAN ONE QUARTERgSIXTHdONE BAN2eBURUeEIGHTH ASHeESHE3eGESH2eGESHU",
   "eHALF GUReQUARTER ASHfGUReSHARUeTHIRD DISHfVARIANT FORM AdSEVEN ASHeDISHeGESH2eSHAR2eU",
   "eU VARIANT FORMeVARIANT FORM IMIN AhBgIMIN3dSHAR2 TIMES GAL PLUS DISHhMINdSIX ASHeASH TENUeDISH",
   "eGESH2eSHAR2eUeU VARIANT FORMeVARIANT FORM ASH9dTHREE ASHeASH TENUeBAN2eBURUeBURU VARIANT FORM",
   "eDISHeGESH2eGESHUeSHAR2eSHAR2 VARIANT FORMeSHARUeSHARU VARIANT FORMeVARIANT FORM ESH16gESH21",
   "dTWO ASHeASH TENUeBAN2eBURUeESHE3eGESH2eGESHUeSHAR2eSHARUeTHIRDS DISHfVARIANT FORM A",
   "bPUNCTUATION SIGN DIAGONAL COLONeQUADCOLONeTRICOLONdOLD ASSYRIAN WORD DIVIDERdVERTICAL COLON",
   "bSIGN AcA TIMES AeBADeGAN2 TENUeHAeIGIeLAGAR GUNUeMUSHeSAGcA2cABcAB GUNUdTIMES ASH2eDUN3 GUNU",
   "eGALeGAN2 TENUeHAeIGI GUNUeIMINeLAGABeNUNeNUN TENUeSHESHeSHU2eU PLUS U PLUS UcAB2cAB2 TIMES A",
   "eBALAGeGAN2 TENUeME PLUS ENeSHA3eTAK4cADcAD TIMES ESH2cAKcAK TIMES ERIN2eSHITA PLUS GISHcAL",
   "cAL TIMES ALeDIM2eGISHeHAeKAD3eKIeSHEeUSHcALANcALEPHcAMARcAMAR TIMES KUGeSHEcANcAN OVER AN",
   "dPLUS NAGA OPPOSING AN PLUS NAGAfSQUAREDdTHREE TIMEScANSHEcAPINcARADcARAD TIMES KURcARKABcASAL2",
   "cASHcASH KABA TENUdOVER ASH OVER ASHgASH CROSSING ASH OVER ASH OVER ASH",
   "fTUG2 OVER TUG2 TUG2 OVER TUG2 PAPdZIDA TENUcASH2cASHGABcBAcBADcBAD TIMES DISH TENUcBAG3cBAHAR2",
   "cBAHAR2 TIMES AB2eNIeZAcBALcBAL OVER BALcBALAGcBARcBARA2cBIcBI TIMES AeGAReIGI GUNUcBU",
   "cBU CROSSING BUdOVER BU ABfTIMES NA2fUNcBULUGcBULUG OVER BULUGcBURcBUR2cDAcDA TIMES TAK4cDAG",
   "cDAG KISIM5 TIMES A PLUS MASHfAMARfBALAGfBIfGAfGA PLUS MASHfGIfGIR2fGUDfHAfIRfIR PLUS LUfKAKfLA",
   "fLUfLU PLUS MASH2fLUMfNEfPAP PLUS PAPfSIfTAK4fU2 PLUS GIR2hMASHfUSHdTIMES KURcDAG3cDAMcDAR",
   "cDARA3cDARA4cDIcDIBcDIMcDIM TIMES IGIeSHEeU U UcDIM2cDIM2 TIMES UDcDINcDIN KASKAL U GUNU DISH",
   "cDISHcDISH PLUS SHUcDUcDU GUNUdOVER DUdSHESHIGcDUBcDUB TIMES ESH2eSHEcDUB2cDUGcDUG TIMES ANSHE",
   "eASHeASH AT LEFTeDINeDUNeERIN2eGAeGIeGIR2 GUNUeGISHeHAeHIeIGI GUNUeKASKALeKUReKUSHU2",
   "eKUSHU2 PLUS KASKALeLAK-020eLAMeLAM TIMES KUReLUH PLUS GISHeMASHeMESeMIeNIePIeSHEeSI GUNUcDUGUD",
   "cDUHcDUNcDUN3cDUN3 GUNUdGUNU GUNUcDUN4cDUR2cEcE OVER E NUN OVER NUNdTIMES PAPcE2",
   "cE2 TIMES A PLUS HA PLUS DAeGAReKUReMIePAPeSALeSHEeUcEDINcEGIRcELcENcEN CROSSING ENdOPPOSING EN",
   "dSQUAREDdTIMES GAN2eGAN2 TENUeMEcERENcERIN2cERIN2 XcESH2cESH2 CROSSING ESH2cEZEN"]

def secondPart : List String :=
  ["cEZEN SHESHIG TIMES ASHfHIfIGI GUNUfLAfLALfMEfMESfSUdTIMES AeA PLUS LALgLAL TIMES LALeANeBAD",
   "eDUN3 GUNUfGUNU GUNUeGUDeHAeHA GUNUeIGI GUNUeKASKALeKASKAL SQUAREDeKU3eLAeLAL TIMES LALeLIeLU",
   "eSHEeSUeU2eUDcGAcGA GUNUcGA2cGA2 OVER GA2dTIMES A PLUS DA PLUS HAgHAgIGIeAB2 TENU PLUS TABeAN",
   "eAN PLUS KAK PLUS AeASHeASH2eASH2 PLUS GALeBADeBAHAR2eBAR PLUS RAeBUReBUR PLUS RAeDAeDI",
   "eDIM GUNUfTIMES SHEeDUBeDUG TIMES IGI GUNUgKASKALeELeEL PLUS LAeENeEN TIMES GAN2 TENUeERENeGA",
   "eGAN2 TENUeGAReGAR PLUS DIgNEeGIeGI4eGI4 PLUS AeGIR2 PLUS SUeHA PLUS AgLU PLUS ESH2eHAL",
   "eHAL PLUS LAeHI PLUS LIeHUB2eIGI GUNUeISH PLUS HU PLUS ASHeKAKeKASKALeKIDeKID PLUS LAL",
   "eKU3 PLUS ANeKUSHU2 PLUS KASKALeLAeLAMeLAM TIMES KUReLUHeME PLUS ENeMIeMUSHeNEeNE PLUS E2gGI",
   "eNUNeNUN OVER NUNePAeSALeSAReSHEeSHE PLUS TUReSHIDeSHIMeSUMeTAK4eUeUDeUD PLUS DUeZIZ2cGABA",
   "cGABA CROSSING GABAdROTATED NINETY DEGREEScGADcGAD OVER GAD GAR OVER GARcGAL",
   "cGAL GAD OVER GAD GAR OVER GARcGALAMcGAMcGANcGAN2cGAN2 CROSSING GAN2dOVER GAN2dTENUcGARcGAR3",
   "cGASHANcGE22cGESHTINcGESHTIN TIMES KUReUcGIcGI CROSSING GIdTIMES EeUcGI4cGI4 CROSSING GI4",
   "dOVER GI4cGIDIMcGIGcGIR2cGIR2 GUNUcGIR3cGIR3 TIMES A PLUS IGIeGAN2 TENUeIGIeLU PLUS IGIePA",
   "cGISALcGISHcGISH CROSSING GISHdTENUdTIMES BADeGISH CROSSING GISHeTAK4cGUcGU CROSSING GUcGU2",
   "cGU2 GUNUdTIMES IGI GUNUeKAKeKAK TIMES IGI GUNUeNUNeSAL PLUS TUG2cGUDcGUD OVER GUD LUGAL",
   "dPLUS GISH TIMES TAK4dTIMES A PLUS KUReKURcGULcGUMcGUM TIMES SHEcGURcGUR7cGURUNcGURUSHcHA",
   "cHA GUNUdTENUdTENU GUNUcHALcHIcHI TIMES ASHeASH OVER HI TIMES ASHeASH2eBADeDISHeGADeKINeNUNeSHE",
   "eUcHUcHUB2cHUB2 TIMES ANeHALeKASKALeLISHeUDcHUL2cHUSHcIcI AcIBcIDIMcIDIM OVER IDIM BURfSQUARED",
   "cIGcIGIcIGI DIBdGUNUdOVER IGI SHIR OVER SHIR UD OVER UDdRIcILcIL TIMES GAN2 TENUcIL2cIM",
   "cIM CROSSING IMdOPPOSING IMdSQUAREDdTIMES TAK4cIMINcINcIRcISHcKAcKA TIMES AeADeAD PLUS KU3",
   "eANSHEeASH2eASH3eBADeBALAGeBAReBIeBUeERIN2eESH2eGAeGALeGAN2 TENUeGAReGAR PLUS SHA3 PLUS AeGI",
   "eGIR2eGISHeGISH CROSSING GISHfPLUS SAReGUeGUDeGUR7eHI TIMES ASH2eIGIeIMeKAeKAKeKIeKIDeLIeLUeLUM",
   "eMEeME PLUS DUgGIgTEeMIeMI PLUS NUNUZeNEeNUNePAePIeRUeSAeSAReSHAeSHEeSHIDeSHUeSHULeSIGeSUHUR",
   "eTAReTUeUeU U UeU2eUDeUMUM TIMES PAeUReUR2eUSHeZIcKA2cKA2 CROSSING KA2cKABcKAD2cKAD3cKAD4cKAD5",
   "cKAD5 OVER KAD5cKAKcKAK TIMES IGI GUNUcKALcKAL CROSSING KALdTIMES BADcKAM2cKAM4cKAP ELAMITE",
   "cKASKALcKASKAL LAGAB TIMES U OVER LAGAB TIMES UdOVER KASKAL LAGAB TIMES U OVER LAGAB TIMES U",
   "cKESH2cKIcKI TIMES BADeUeUDcKIDcKINcKISALcKISHcKISIM5cKISIM5 OVER KISIM5cKU",
   "cKU OVER HI TIMES ASH2 KU OVER HI TIMES ASH2cKU3cKU4cKU4 VARIANT FORMcKU7cKULcKUL GUNUcKUNcKUR",
   "cKUR OPPOSING KURcKUSHU2cKWU318cLAcLAGABcLAGAB SQUAREDdTIMES AeA PLUS DA PLUS HAgGARgLALeALeAN",
   "eASH ZIDA TENUeBADeBIeDAReENeGAeGAReGIeGUDeGUD PLUS GUDeHAeHALeHI TIMES NUNeIGI GUNUeIM",
   "eIM PLUS HAgLUeKIeKINeKU3eKULeKUL PLUS HI PLUS AeLAGABeLISHeLUeLULeMEeME PLUS ENeMUSHeNE",
   "eSHE PLUS SUMeSHITA PLUS GISH PLUS ERIN2hTENUeSHU2eSHU2 PLUS SHU2eSUMeTAGeTAK4",
   "eTE PLUS A PLUS SU PLUS NAeUeU PLUS AgU PLUS UeU2 PLUS ASHeUDeUSHeZU OVER ZUcLAGARcLAGAR GUNU",
   "dGUNU OVER LAGAR GUNU SHEdTIMES SHEeSHE PLUS SUMcLAHSHUcLAK-003d021d025d030d050d051d062",
   "d079 OVER LAK-079 GUNUd080d081 OVER LAK-081d092d130d142d210d219d220d225d228d238d265d266d343d347",
   "d348d383d384d390d441d449d449 TIMES GUfIGIfPAP PLUS LU3hPAP PLUS LU3fU2 PLUS BAd450d457d470d483",
   "d490d492d493d495d550d608d617d617 TIMES ASHfBADfDUN3 GUNU GUNUfKU3fLAfTARfTEfU2fUDfURUDAd636d648",
   "d648 TIMES DUBfGAfIGIfIGI GUNUfNIfPAP PLUS PAP PLUS LU3fSHESH PLUS KIfUDfURUDAd724d749cLAL",
   "cLAL TIMES LALcLAMcLAM TIMES KUReKUR PLUS RUcLIcLILcLIMMU2cLISHcLUcLU TIMES BADcLU2",
   "cLU2 CROSSING LU2dGUNU TIMES ASHdOPPOSING LU2dSHESHIGdSHESHIG TIMES BADdSQUAREDdTENUdTIMES AL",
   "eBADeDISHeESH2eESH2 PLUS LALfTENUeGAN2 TENUeHALeHI TIMES BADeIMeKAD2eKAD3eKAD3 PLUS ASHeKI",
   "eLA PLUS ASHeLAGABeME PLUS ENeNEeNUePAPePAP PLUS PAP PLUS LU3eSHUeSI PLUS ASHeSIK2 PLUS BUeTAK4",
   "eTUG2cLU3cLUGALcLUGAL OPPOSING LUGALdOVER LUGALdSHESHIGcLUHcLULcLUMcLUM OVER LUM",
   "eLUM GAR OVER GARcMAcMA GUNUdTIMES TAK4cMA2cMAHcMARcMASHcMASH2cMEcMEScMESHcMIcMI PLUS ZA7cMIN",
   "cMUcMU OVER MUcMUGcMUG GUNUcMUNSUBcMURGU2cMUSHcMUSH CROSSING MUSHdOVER MUSH",
   "eMUSH TIMES A PLUS NAgGAgKAKdTIMES AeKUReZAcMUSH3cMUSH3 GUNUdTIMES AeA PLUS DIeDIeZAcNAcNA2cNA4",
   "cNAGAcNAGA INVERTEDdOPPOSING NAGAdTIMES SHU TENUcNAGARcNAMcNAM NUTILLUcNAM2cNEcNE SHESHIG",
   "dTIMES AeUDcNIcNI TIMES EcNI2cNIMcNIM TIMES GAN2 TENUeGAR PLUS GAN2 TENUcNINcNIN9cNINDA2",
   "cNINDA2 TIMES ANeASHeASH PLUS ASHeBALeDIM GUNUeGIeGISHeGUDeGULeHIeKESH2eLAK-050eMASH",
   "eME PLUS GAN2 TENUeNEeNUNePAP PLUS PAPeSHEeSHE PLUS A ANgASHgASH PLUS ASHeUeU PLUS U",
   "eU2 PLUS ASHeURUDAeUSHcNISAGcNUcNU11cNU11 OVER NU11 BUR OVER BURdROTATED NINETY DEGREESdTENU",
   "cNUNcNUN CROSSING NUNeNUN LAGAR OVER LAGARdLAGAR TIMES GARfMASHfSAL",
   "fSAL OVER NUN LAGAR TIMES SALfUSHdOVER NUNdTENUcNUNUZcNUNUZ AB2 TIMES ASHGABfBIfDUGfGUD",
   "fIGI GUNUfKAD3fLAfNEfSILA3fU2dKISIM5 TIMES BIfBI UcPAcPADcPANcPAPcPESH2cPESH2 ASTERISKcPI",
   "cPI CROSSING PIdTIMES AeABeBIeBUeEeIeIBeUeU2cPIR2cPIRIGcPIRIG OPPOSING PIRIGdTIMES KALeUDeZAcRA",
   "cRABcRIcRUcSAcSAGcSAG GUNUdGUNU TIMES HAdNUTILLUdOVER SAGdTIMES AeDUeDUBeENeHAeIGI GUNUeKAKeKUR",
   "eLUMeMIeNUNeSALeSHE AT LEFTeSHIDeTABeTAK4eU2eUBeUMeUReUSHcSALcSAL LAGAB TIMES ASH2cSANGA2cSAR",
   "cSHAcSHA3cSHA3 TIMES AeBADeGISHeNEeSHU2eTUReUeU PLUS AcSHA6cSHA6 TENUcSHAB6cSHAR2cSHEcSHE HU",
   "dOVER SHEeSHE GAD OVER GAD GAR OVER GARfTAB OVER TAB GAR OVER GARdPLUS HUB2eNAM2eSARcSHEG9cSHEN",
   "cSHESHcSHESH2cSHESHLAMcSHIDcSHID TIMES AeIMcSHIMcSHIM TIMES AeBALeBULUGeDINeGAReIGIeIGI GUNU",
   "eKUSHU2eLULeMUGeSALcSHINIGcSHIRcSHIR OVER SHIR BUR OVER BURdTENUcSHITAcSHU",
   "cSHU OVER INVERTED SHUcSHU2cSHU2 PLUS DUG TIMES NIeE2 TIMES ANcSHUBURcSIcSI GUNUdTIMES TAK4cSIG",
   "cSIG4cSIG4 OVER SIG4 SHU2cSIK2cSILA3cSUcSU OVER SUcSUDcSUD2cSUHURcSUMcSUMASHcSURcSUR9cTA",
   "cTA ASTERISKdGUNUdTIMES HIeMIcTABcTAB OVER TAB NI OVER NI DISH OVER DISHdSQUAREDcTAG",
   "cTAG TIMES BIeGUDeSHEeSHUeTUG2eUDcTAK4cTAK4 PLUS SAGcTARcTEcTE GUNUcTIcTI TENUcTI2cTILcTIR",
   "cTIR OVER TIReTIR GAD OVER GAD GAR OVER GARdTIMES TAK4cTUcTUG2cTUKcTUMcTUM TIMES GAN2 TENU",
   "eTHREE DISHcTURcTUR OVER TUR ZA OVER ZAcUcU GUDdOVER U PA OVER PA GAR OVER GARfSUR OVER SUR",
   "fU REVERSED OVER U REVERSEDdUdU UcU2cUBcUDcUD GUNUdKUSHU2dSHESHIGdSHESHIG TIMES BADdTIMES BAD",
   "eMIeU PLUS U PLUS UiU GUNUcUDUGcUMcUM TIMES LAGABeMEeME PLUS DAeSHA3eUcUMBINcUMUM",
   "cUMUM TIMES KASKALePAcUNcUN GUNUcURcUR CROSSING URdSHESHIGcUR2cUR2 INVERTEDdTIMES A PLUS HAgNA",
   "eALeHAeNUNeU2eU2 PLUS ASHgBIeUDcUR4cURIcURI3cURUcURU TIMES AeASHGABeBAReDARA3eDUNeGAeGAL",
   "eGAN2 TENUeGAReGUeHAeIGIeIMeISHeKIeLAK-668eLU3eLUMeMINePAeSHEeSIG4eTUeU PLUS GUDeUDeURUDAcURUDA",
   "cURUDA TIMES UcUSHcUSH TIMES AeKUeKUReTAK4cUSH2cUSHUMXcUSHXcUTUKIcUZ3cUZ3 TIMES KASKALcUZUcZA",
   "cZA SQUARED TIMES KURdTENUcZA7cZAGcZAMXcZE2cZIcZI OVER ZIcZI3cZIBcZIB KABA TENUcZIGcZIZ2cZU",
   "cZU OVER ZU PLUS SARcZU5cZU5 TIMES AeTHREE DISH TENUcZUBURcZUMaCUP ON BLACK SQUAREbWITH STRAW",
   "aCUPCAKEaCUPIDOaCURLING STONEaCURLY BRACKET EXTENSIONbLOGICAL ANDcORbLOOPaCURRENCY EXCHANGE",
   "bSIGNaCURRY AND RICEaCURVED STEM PARAGRAPH SIGN ORNAMENTaCUSTARDaCUSTOMSaCUT OF MEATaCYCLONE",
   "aCYLINDRICITYaCYPRIOT SYLLABLE AcEcIcJAcJOcKAcKEcKIcKOcKUcLAcLEcLIcLOcLUcMAcMEcMIcMOcMUcNAcNE",
   "cNIcNOcNUcOcPAcPEcPIcPOcPUcRAcREcRIcROcRUcSAcSEcSIcSOcSUcTAcTEcTIcTOcTUcUcWAcWEcWIcWOcXAcXEcZA",
   "cZOaCYPRO-MINOAN SIGN CM001dCM002dCM004dCM005dCM006dCM007dCM008dCM009dCM010dCM011dCM012dCM012B",
   "dCM013dCM015dCM017dCM019dCM021dCM023dCM024dCM025dCM026dCM027dCM028dCM029dCM030dCM033dCM034",
   "dCM035dCM036dCM037dCM038dCM039dCM040dCM041dCM044dCM046dCM047dCM049dCM050dCM051dCM052dCM053",
   "dCM054dCM055dCM056dCM058dCM059dCM060dCM061dCM062dCM063dCM064dCM066dCM067dCM068dCM069dCM070",
   "dCM071dCM072dCM073dCM074dCM075dCM075BdCM076dCM078dCM079dCM080dCM081dCM082dCM083dCM084dCM085",
   "dCM086dCM087dCM088dCM089dCM090dCM091dCM092dCM094dCM095dCM096dCM097dCM098dCM099dCM100dCM101",
   "dCM102dCM103dCM104dCM105dCM107dCM108dCM109dCM110dCM112dCM114dCM301dCM302",
   "aCYRILLIC CAPITAL LETTER AdA WITH BREVEfDIAERESISdABKHASIAN CHEeCHE WITH DESCENDEReDZEeHA",
   "dALEUT KAdBARRED OeO WITH DIAERESISdBASHKIR KAdBEdBIG YUSdBINOCULAR OdBLENDED YUSdBROAD OMEGA",
   "dBYELORUSSIAN-UKRAINIAN IdCCHEdCHEdCHE WITH DESCENDERfDIAERESISfVERTICAL STROKE",
   "dCLOSED LITTLE YUSdCROSSED OdDCHEdDEdDJEdDJERVdDOUBLE MONOCULAR OeOdDWEdDZEdDZELOdDZHEdDZWE",
   "dDZZEdDZZHEdEdE WITH DIAERESISdEFdELdEL WITH DESCENDERfHOOKfMIDDLE HOOKfTAILdEMdEM WITH TAILdEN",
   "dEN WITH DESCENDERfHOOKfLEFT HOOKfMIDDLE HOOKfTAILdERdER WITH TICKdESdES WITH DESCENDERdFITA",
   "dGHEdGHE WITH DESCENDERfMIDDLE HOOKfSTROKEfSTROKE AND HOOKfUPTURNdGJEdHAdHA WITH DESCENDERfHOOK",
   "fSTROKEdHARD SIGNdHWEdIdI WITH DIAERESISfGRAVEfMACRONdIEdIE WITH BREVEfGRAVEdIOdIOTAdIOTIFIED A",
   "eBIG YUSeCLOSED LITTLE YUSeEeLITTLE YUSeYATdIZHITSAdIZHITSA WITH DOUBLE GRAVE ACCENTdJEdKA",
   "dKA WITH DESCENDERfHOOKfSTROKEfVERTICAL STROKEdKHAKASSIAN CHEdKJEdKOMI DEeDJEeDZJEeLJEeNJEeSJE",
   "eTJEeZJEdKOPPAdKSIdLHAdLITTLE YUSdLJEdMONOCULAR OdMONOGRAPH UKdNEUTRAL YERdNJEdO",
   "dO WITH DIAERESISdOMEGAdOMEGA WITH TITLOdOTdPEdPE WITH DESCENDERfMIDDLE HOOKdPSIdQA",
   "dREVERSED DZEeTSEeYUeZEdRHAdROUND OMEGAdSCHWAdSCHWA WITH DIAERESISdSEMISOFT SIGNdSHAdSHCHAdSHHA",
   "dSHHA WITH DESCENDERdSHORT IeI WITH TAILeUdSHWEdSOFT DEeELeEMeSIGNdSTRAIGHT UeU WITH STROKE",
   "dTCHEdTEdTE WITH DESCENDERfMIDDLE HOOKdTSEdTSHEdTSSEdTSWEdTWEdUdU WITH DIAERESISfDOUBLE ACUTE",
   "fMACRONdUKdUKRAINIAN IEdVEdWEdYAdYAEdYATdYERUdYERU WITH BACK YERfDIAERESISdYIdYNdYUdZE",
   "dZE WITH DESCENDERfDIAERESISdZEMLYAdZHEdZHE WITH BREVEfDESCENDERfDIAERESISdZHWEcLIGATURE A IE",
   "dEN GHEdTE TSEbKAVYKAbLETTER MULTIOCULAR OcPALOCHKAcSMALL CAPITAL ELbPAYEROKbSMALL LETTER A",
   "dA WITH BREVEfDIAERESISdABKHASIAN CHEeCHE WITH DESCENDEReDZEeHAdALEUT KAdBARRED O",
   "eO WITH DIAERESISdBASHKIR KAdBEdBIG YUSdBINOCULAR OdBLENDED YUSdBROAD OMEGA",
   "dBYELORUSSIAN-UKRAINIAN IdCCHEdCHEdCHE WITH DESCENDERfDIAERESISfVERTICAL STROKE",
   "dCLOSED LITTLE YUSdCROSSED OdDCHEdDEdDJEdDJERVdDOUBLE MONOCULAR OeOdDWEdDZEdDZELOdDZHEdDZWE",
   "dDZZEdDZZHEdEdE WITH DIAERESISdEFdELdEL WITH DESCENDERfHOOKfMIDDLE HOOKfTAILdEMdEM WITH TAILdEN",
   "dEN WITH DESCENDERfHOOKfLEFT HOOKfMIDDLE HOOKfTAILdERdER WITH TICKdESdES WITH DESCENDERdFITA",
   "dGHEdGHE WITH DESCENDERfMIDDLE HOOKfSTROKEfSTROKE AND HOOKfUPTURNdGJEdHAdHA WITH DESCENDERfHOOK",
   "fSTROKEdHARD SIGNdHWEdIdI WITH DIAERESISfGRAVEfMACRONdIEdIE WITH BREVEfGRAVEdIOdIOTAdIOTIFIED A",
   "eBIG YUSeCLOSED LITTLE YUSeEeLITTLE YUSeYATdIZHITSAdIZHITSA WITH DOUBLE GRAVE ACCENTdJEdKA",
   "dKA WITH DESCENDERfHOOKfSTROKEfVERTICAL STROKEdKHAKASSIAN CHEdKJEdKOMI DEeDJEeDZJEeLJEeNJEeSJE",
   "eTJEeZJEdKOPPAdKSIdLHAdLITTLE YUSdLJEdLONG-LEGGED DEdMONOCULAR OdMONOGRAPH UKdNARROW O",
   "dNEUTRAL YERdNJEdOdO WITH DIAERESISdOMEGAdOMEGA WITH TITLOdOTdPALOCHKAdPEdPE WITH DESCENDER",
   "fMIDDLE HOOKdPSIdQAdREVERSED DZEeTSEeYUeZEdRHAdROUND OMEGAdROUNDED VEdSCHWA",
   "dSCHWA WITH DIAERESISdSEMISOFT SIGNdSHAdSHCHAdSHHAdSHHA WITH DESCENDERdSHORT IeI WITH TAILeU",
   "dSHWEdSOFT DEeELeEMeSIGNdSTRAIGHT UeU WITH STROKEdTALL HARD SIGNeTEeYATdTCHEdTE",
   "dTE WITH DESCENDERfMIDDLE HOOKdTHREE-LEGGED TEdTSEdTSHEdTSSEdTSWEdTWEdUdU WITH DIAERESIS",
   "fDOUBLE ACUTEfMACRONdUKdUKRAINIAN IEdUNBLENDED UKdVEdWEdWIDE ESdYAdYAEdYATdYERU",
   "dYERU WITH BACK YERfDIAERESISdYIdYNdYUdZEdZE WITH DESCENDERfDIAERESISdZEMLYAdZHEdZHE WITH BREVE",
   "fDESCENDERfDIAERESISdZHWEcLIGATURE A IEdEN GHEdTE TSEbTHOUSANDS SIGNaDAGGERaDAGGER KNIFE",
   "bWITH LEFT GUARDcRIGHT GUARDaDALET SYMBOLaDANCERaDANGOaDARK SHADEbSUNGLASSESaDASH SYMBOL",
   "bWITH LEFT UPTURNaDASHED LOW LINEbOVERLINEbTRIANGLE-HEADED RIGHTWARDS ARROWaDATA LINK ESCAPE",
   "aDC1aDC2aDC3aDC4aDCSaDEAF PERSONaDECIDUOUS TREEaDECIMAL EXPONENT SYMBOLbSEPARATOR KEY SYMBOL",
   "aDECREASE FONT SIZE SYMBOLaDEERaDEGREE CELSIUSbFAHRENHEITbSIGNaDELaDELETEaDELIVERY TRUCK",
   "aDELTA EQUAL TOaDENTISTRY SYMBOL LIGHT DOWN AND HORIZONTALfHORIZONTAL WITH CIRCLEhTRIANGLEhWAVE",
   "dUP AND HORIZONTALfHORIZONTAL WITH CIRCLEhTRIANGLEhWAVEdVERTICAL AND BOTTOM LEFTgRIGHTfTOP LEFT",
   "gRIGHTfWAVEeWITH CIRCLEfTRIANGLEaDEPARTMENT STOREaDERELICT HOUSE BUILDINGaDESCENDING NODE",
   "aDESERET CAPITAL LETTER AYdBEEdCHEEdDEEdEFdELdEMdENdENGdERdESdESHdETHdEWdGAYdHdJEEdKAYdLONG A",
   "eAHeEeIeOeOOdOIdOWdPEEdSHORT AeAHeEeIeOeOOdTEEdTHEEdVEEdWUdYEEdZEEdZHEEbSMALL LETTER AYdBEE",
   "dCHEEdDEEdEFdELdEMdENdENGdERdESdESHdETHdEWdGAYdHdJEEdKAYdLONG AeAHeEeIeOeOOdOIdOWdPEEdSHORT A",
   "eAHeEeIeOeOOdTEEdTHEEdVEEdWUdYEEdZEEdZHEEaDESERTaDESERT ISLANDaDESKTOP COMPUTERbWINDOW",
   "aDEVANAGARI ABBREVIATION SIGNbACUTE ACCENTbCARETbDANDAbDIGIT EIGHTcFIVEcFOURcNINEcONEcSEVENcSIX",
   "cTHREEcTWOcZERObDOUBLE DANDAbGAP FILLERbGRAVE ACCENTbHEADSTROKEbJAIN OMbLETTER AcAAcAIcAUcAWcAY",
   "cBAcBBAcBHAcCAcCANDRA AdEdOcCHAcDAcDDAcDDDAcDDDHAcDDHAcDHAcEcFAcGAcGGAcGHAcGHHAcGLOTTAL STOPcHA",
   "cHEAVY YAcIcIIcJAcJHAcJJAcKAcKHAcKHHAcLAcLLAcLLLAcMAcMARWARI DDAcNAcNGAcNNAcNNNAcNYAcOcOEcOOE",
   "cPAcPHAcQAcRAcRHAcRRAcSAcSHAcSHORT AdEdOcSSAcTAcTHAcTTAcTTHAcUcUEcUUcUUEcVAcVOCALIC LdLLdRdRR",
   "cYAcYYAcZAcZHAbOMbSIGN ANUSVARAcAVAGRAHAcCANDRABINDUcCANDRABINDU AVAGRAHAdTHREEdTWOdVIRAMA",
   "cDOUBLE CANDRABINDU VIRAMAcHIGH SPACING DOTcINVERTED CANDRABINDUcNUKTAcPUSHPIKAcSIDDHAM",
   "cSPACING CANDRABINDUcVIRAMAcVISARGAbSTRESS SIGN ANUDATTAdUDATTAbVOWEL SIGN AAdAIdAUdAWdAY",
   "dCANDRA EeLONG EeOdEdIdIIdOdOEdOOEdPRISHTHAMATRA EdSHORT EeOdUdUEdUUdUUEdVOCALIC LeLLeReRR",
   "aDEVICE CONTROL FOURcONEcSTRINGcTHREEcTWOaDIAERESISaDIAMETER SIGNaDIAMOND OPERATOR",
   "bSHAPE WITH A DOT INSIDEbTARGETbWITH BOTTOM HALF BLACKcLEFT HALF BLACKcRIGHT HALF BLACK",
   "cTOP HALF BLACKaDIE FACE-1c2c3c4c5c6aDIESEL LOCOMOTIVEaDIFFERENCE BETWEENaDIGIT EIGHT",
   "bEIGHT COMMAcFULL STOPbFIVEbFIVE COMMAcFULL STOPbFOURbFOUR COMMAcFULL STOPbNINEbNINE COMMA",
   "cFULL STOPbONEbONE COMMAcFULL STOPbSEVENbSEVEN COMMAcFULL STOPbSIXbSIX COMMAcFULL STOPbTHREE",
   "bTHREE COMMAcFULL STOPbTWObTWO COMMAcFULL STOPbZERObZERO COMMAcFULL STOPaDIGRAM FOR EARTH",
   "cEARTHLY HEAVENdHUMANcGREATER YANGdYINcHEAVENLY EARTHcHUMAN EARTHcLESSER YANGdYIN",
   "aDIMENSION ORIGINaDINGBAT CIRCLED SANS-SERIF DIGIT EIGHTfFIVEfFOURfNINEfONEfSEVENfSIXfTHREEfTWO",
   "fZEROeNUMBER TENbNEGATIVE CIRCLED DIGIT EIGHTeFIVEeFOUReNINEeONEeSEVENeSIXeTHREEeTWOdNUMBER TEN",
   "dSANS-SERIF DIGIT EIGHTgFIVEgFOURgNINEgONEgSEVENgSIXgTHREEgTWOgZEROfNUMBER TEN",
   "aDIRECT CURRENT SYMBOL FORM TWObHITaDISABLED CARaDISAPPOINTED BUT RELIEVED FACEbFACE",
   "aDISCONTINUOUS UNDERLINE SYMBOLaDISGUISED FACEaDITTO MARKaDIVES AKURU DIGIT EIGHTdFIVEdFOUR",
   "dNINEdONEdSEVENdSIXdTHREEdTWOdZEROcDOUBLE DANDAcEND OF TEXT MARKcGAP FILLERcINITIAL RAcLETTER A",
   "dAAdBAdBHAdCAdCHAdDAdDDAdDDHAdDHAdEdGAdGHAdHAdIdIIdJAdKAdKHAdLAdLLAdMAdNAdNGAdNNAdNYAdOdPAdPHA",
   "dRAdSAdSHAdSSAdTAdTHAdTTAdUdUUdVAdYAdYYAdZAcMEDIAL RAdYAcPREFIXED NASAL SIGNcSIGN ANUSVARA",
   "dCANDRABINDUdHALANTAdNUKTAcVIRAMAcVOWEL SIGN AAeAIeEeIeIIeOeUeUUaDIVIDESaDIVING MASK",
   "aDIVISION SIGNbSLASHbTIMESaDIVORCE SYMBOLaDIYA LAMPaDIZZY FACEbSYMBOLaDLEaDNA DOUBLE HELIX",
   "aDO NOT LITTER SYMBOLaDOCUMENTaDOCUMENT WITH PICTUREcTEXTcTEXT AND PICTUREaDODO",
   "aDOES NOT CONTAIN AS MEMBEReNORMAL SUBGROUPfSUBGROUP OR EQUALcDIVIDE",
   "cDIVIDE WITH REVERSED NEGATION SLASHcFORCEcPRECEDEcPRECEDE OR EQUALcPROVEcSUCCEED",
   "cSUCCEED OR EQUALaDOGaDOG FACEaDOGRA ABBREVIATION SIGNbLETTER AcAAcAIcAUcBAcBHAcCAcCHAcDAcDDA",
   "cDDHAcDHAcEcGAcGHAcHAcIcIIcJAcJHAcKAcKHAcLAcMAcNAcNGAcNNAcNYAcOcPAcPHAcRAcRRAcSAcSHAcSSAcTAcTHA",
   "cTTAcTTHAcUcUUcVAcYAbSIGN ANUSVARAcNUKTAcVIRAMAcVISARGAbVOWEL SIGN AAdAIdAUdEdIdIIdOdUdUU",
   "dVOCALIC ReRRaDOLLAR SIGNaDOLPHINaDOMINO TILE HORIZONTAL BACKcHORIZONTAL-00-00e01e02e03e04e05",
   "e06d01-00e01e02e03e04e05e06d02-00e01e02e03e04e05e06d03-00e01e02e03e04e05e06d04-00e01e02e03e04",
   "e05e06d05-00e01e02e03e04e05e06d06-00e01e02e03e04e05e06cVERTICAL BACKcVERTICAL-00-00e01e02e03e04",
   "e05e06d01-00e01e02e03e04e05e06d02-00e01e02e03e04e05e06d03-00e01e02e03e04e05e06d04-00e01e02e03",
   "e04e05e06d05-00e01e02e03e04e05e06d06-00e01e02e03e04e05e06aDONG SIGNaDOORaDOT ABOVEbMINUS",
   "bOPERATORbPLUSaDOTTED CIRCLEbCROSSbFENCEbLINE FACEbOBELOSbRIGHT-POINTING ANGLEbSOLIDUSbSQUARE",
   "bTRANSPOSITION MARKERaDOUBLE ACUTE ACCENTbCIRCLED DIGIT EIGHTdFIVEdFOURdNINEdONEdSEVENdSIX",
   "dTHREEdTWOcNUMBER TENbCOLON EQUALbCURLY LOOPbDAGGERbDOWN TACKbEXCLAMATION MARK",
   "bHIGH-REVERSED-9 QUOTATION MARKbHYPHENbINTEGRALbINTERSECTIONbLEFT ARC GREATER-THAN BRACKET",
   "bLOGICAL ANDcORbLOW LINEbLOW-9 QUOTATION MARKcREVERSED-9 QUOTATION MARKbNESTED GREATER-THAN",
   "cLESS-THANdTHAN WITH UNDERBARbOBLIQUE HYPHENbPLUSbPRECEDESbPRIMEbPRIME QUOTATION MARK",
   "bQUESTION MARKbRIGHT ARC LESS-THAN BRACKETbSOLIDUS OPERATORbSQUARE INTERSECTIONcUNION",
   "bSTACKED COMMAbSTROKE NOT SIGNbSUBSETbSUCCEEDSbSUPERSETbSUSPENSION MARKbUNIONbUP TACK",
   "bVERTICAL BARcBAR DOUBLE LEFT TURNSTILEeRIGHT TURNSTILEdLEFT TURNSTILEcLINEbWAVY OVERLINE",
   "aDOUBLE-ENDED MULTIMAPbLINE EQUAL TO OR GREATER-THANfLESS-THANcSLANTED EQUAL TO OR GREATER-THAN",
   "gLESS-THANdGREATER-THAN OR EQUAL TOdLESS-THAN OR EQUAL TObSTRUCK CAPITAL CdGAMMAdHdNdPdPIdQdRdZ",
   "cITALIC CAPITAL DdSMALL DeEeIeJcN-ARY SUMMATIONcSMALL GAMMAdPIaDOUBLED FEMALE SIGNbMALE SIGN",
   "bSYMBOLaDOUGHNUTaDOVE OF PEACEaDOWN ARROWHEADbFISH TAILbRIGHT DIAGONAL ELLIPSISbTACK",
   "bTACK WITH CIRCLE BELOWaDOWN-POINTING RED TRIANGLEcSMALL RED TRIANGLE",
   "cTRIANGLE WITH LEFT HALF BLACKeRIGHT HALF BLACKaDOWNWARD FACING HOOKcHOOK WITH DOTcNOTCHED HOOK",
   "dHOOK WITH DOTaDOWNWARDS ANCORAbARROWbARROW AND RIGHT ONE EIGHTH BLOCKcFROM BAR",
   "cLEFTWARDS OF UPWARDS ARROWcTO BARcWITH CORNER LEFTWARDSdDOUBLE STROKEdEQUILATERAL ARROWHEAD",
   "dHORIZONTAL STROKEdLARGE TRIANGLE ARROWHEADdMEDIUM TRIANGLE ARROWHEADdNOTCHED TAIL",
   "dSMALL EQUILATERAL ARROWHEADeTRIANGLE ARROWHEADdTIP LEFTWARDSeRIGHTWARDSbBLACK ARROW",
   "cCIRCLED WHITE ARROWbCOMPRESSED ARROWbDASHED ARROWbDOUBLE ARROWbFINGER-POST ARROW",
   "bHARPOON WITH BARB LEFT BESIDE DOWNWARDS HARPOON WITH BARB RIGHT",
   "gUPWARDS HARPOON WITH BARB RIGHTfFROM BARfTO BAReLEFTWARDSeRIGHT FROM BARfTO BAReRIGHTWARDS",
   "bHEAVY ARROWcCOMPRESSED ARROWbPAIRED ARROWSbQUADRUPLE ARROWbROCKETbSANS-SERIF ARROW",
   "bSQUARED ARROWbTRIANGLE ARROWHEADbTRIANGLE-HEADED ARROW",
   "dARROW LEFTWARDS OF UPWARDS TRIANGLE-HEADED ARROWeTO BAReWITH BOLD SHAFT",
   "fDOUBLE HORIZONTAL STROKEfHEAVY SHAFTfLONG TIP LEFTWARDShRIGHTWARDSfMEDIUM SHAFTfNARROW SHAFT",
   "fVERY HEAVY SHAFTdDASHED ARROWdPAIRED ARROWSdZIGZAG ARROWbTRIPLE ARROWbTWO HEADED ARROW",
   "bTWO-HEADED ARROW WITH TRIANGLE ARROWHEADSbWHITE ARROWcARROW WITHIN TRIANGLE ARROWHEAD",
   "bZIGZAG ARROWaDRACHMA SIGNaDRAFTING POINT RIGHTWARDS ARROWaDRAGONaDRAGON FACEaDRESS",
   "aDRIVE SLOW SIGNaDROMEDARY CAMELaDROOLING FACEaDROP OF BLOODaDROPLETaDRUM WITH DRUMSTICKSaDUCK",
   "aDUMPLINGaDUPLOYAN AFFIX ATTACHED E HOOKdI HOOKdLEFT-TO-RIGHT SECANTdSECANTdTAILdTANGENT",
   "dTANGENT HOOKcHIGH ACUTEdCIRCLEdDOTdGRAVEdLINEdLONG GRAVEdTIGHT ACUTEdVERTICALdVERTICAL SECANT",
   "dWAVEcLEFT HORIZONTAL SECANTcLOW ACUTEdARROWdCIRCLEdDOTdGRAVEdLINEdLONG GRAVEdTIGHT ACUTE",
   "dVERTICALdVERTICAL SECANTdWAVEcMID HORIZONTAL SECANTdVERTICAL SECANTcRIGHT HORIZONTAL SECANT",
   "bDOUBLE MARKbLETTER AcAOUcBcDcD ScDHcEcEEcEUcFcF NcGcG R ScHcHLcIcIEcJcJ MdM SdNdN SdS",
   "dS WITH DOTdWITH DOTeDOTS INSIDE AND ABOVEcKcK MdR ScKKcLcLHcLONG IdUcMcM NdN SdSdWITH DOTcN",
   "cN MdM SdSdWITH DOTcNASAL AdIdOdUcOcOAcOOHcOUcOWcPcP NcPERNIN AMdANcRcR ScRHcROMANIAN IdUcScS J",
   "dJ SdKdK RdMdNdPdP RdSdTdT RdWITH DOTeDOT BELOWcSHORT IcSLOAN ANdDHdEEdEHdENdJdONdOWdUcTcT R S",
   "dScTHcUcU NcUHcUIcVcVOCALIC McWcW RcWAcWEIcWHcWIcWOcWOWcXcXWcYEbPUNCTUATION CHINOOK FULL STOP",
   "bSIGN O WITH CROSSbTHICK LETTER SELECTORaDVDaE-MAIL SYMBOLaEAGLEaEARaEAR OF MAIZEcRICE",
   "bWITH HEARING AIDaEARTHaEARTH GLOBE AMERICAScASIA-AUSTRALIAcEUROPE-AFRICAbGROUND",
   "aEAST SYRIAC CROSSaEDITORIAL CORONISaEGGaEGYPTIAN HIEROGLYPH A001cA002cA003cA004cA005cA005A",
   "cA006cA006AcA006BcA007cA008cA009cA010cA011cA012cA013cA014cA014AcA015cA016cA017cA017AcA018cA019",
   "cA020cA021cA022cA023cA024cA025cA026cA027cA028cA029cA030cA031cA032cA032AcA033cA034cA035cA036",
   "cA037cA038cA039cA040cA040AcA041cA042cA042AcA043cA043AcA044cA045cA045AcA046cA047cA048cA049cA050",
   "cA051cA052cA053cA054cA055cA056cA057cA058cA059cA060cA061cA062cA063cA064cA065cA066cA067cA068cA069",
   "cA070cAA001cAA002cAA003cAA004cAA005cAA006cAA007cAA007AcAA007BcAA008cAA009cAA010cAA011cAA012",
   "cAA013cAA014cAA015cAA016cAA017cAA018cAA019cAA020cAA021cAA022cAA023cAA024cAA025cAA026cAA027",
   "cAA028cAA029cAA030cAA031cAA032cB001cB002cB003cB004cB005cB005AcB006cB007cB008cB009cBEGIN SEGMENT",
   "cC001cC002cC002AcC002BcC002CcC003cC004cC005cC006cC007cC008cC009cC010cC010AcC011cC012cC013cC014",
   "cC015cC016cC017cC018cC019cC020cC021cC022cC023cC024cD001cD002cD003cD004cD005cD006cD007cD008",
   "cD008AcD009cD010cD011cD012cD013cD014cD015cD016cD017cD018cD019cD020cD021cD022cD023cD024cD025",
   "cD026cD027cD027AcD028cD029cD030cD031cD031AcD032cD033cD034cD034AcD035cD036cD037cD038cD039cD040",
   "cD041cD042cD043cD044cD045cD046cD046AcD047cD048cD048AcD049cD050cD050AcD050BcD050CcD050DcD050E",
   "cD050FcD050GcD050HcD050IcD051cD052cD052AcD053cD054cD054AcD055cD056cD057cD058cD059cD060cD061",
   "cD062cD063cD064cD065cD066cD067cD067AcD067BcD067CcD067DcD067EcD067FcD067GcD067HcE001cE002cE003",
   "cE004cE005cE006cE007cE008cE008AcE009cE009AcE010cE011cE012cE013cE014cE015cE016cE016AcE017cE017A",
   "cE018cE019cE020cE020AcE021cE022cE023cE024cE025cE026cE027cE028cE028AcE029cE030cE031cE032cE033",
   "cE034cE034AcE036cE037cE038cEND SEGMENTcF001cF001AcF002cF003cF004cF005cF006cF007cF008cF009cF010",
   "cF011cF012cF013cF013AcF014cF015cF016cF017cF018cF019cF020cF021cF021AcF022cF023cF024cF025cF026",
   "cF027cF028cF029cF030cF031cF031AcF032cF033cF034cF035cF036cF037cF037AcF038cF038AcF039cF040cF041",
   "cF042cF043cF044cF045cF045AcF046cF046AcF047cF047AcF048cF049cF050cF051cF051AcF051BcF051CcF052",
   "cF053cG001cG002cG003cG004cG005cG006cG006AcG007cG007AcG007BcG008cG009cG010cG011cG011AcG012cG013",
   "cG014cG015cG016cG017cG018cG019cG020cG020AcG021cG022cG023cG024cG025cG026cG026AcG027cG028cG029",
   "cG030cG031cG032cG033cG034cG035cG036cG036AcG037cG037AcG038cG039cG040cG041cG042cG043cG043AcG044",
   "cG045cG045AcG046cG047cG048cG049cG050cG051cG052cG053cG054cH001cH002cH003cH004cH005cH006cH006A",
   "cH007cH008cHORIZONTAL JOINERcI001cI002cI003cI004cI005cI005AcI006cI007cI008cI009cI009AcI010",
   "cI010AcI011cI011AcI012cI013cI014cI015cINSERT AT BOTTOM ENDfSTARTeTOP ENDfSTARTcK001cK002cK003",
   "cK004cK005cK006cK007cK008cL001cL002cL002AcL003cL004cL005cL006cL006AcL007cL008cM001cM001AcM001B",
   "cM002cM003cM003AcM004cM005cM006cM007cM008cM009cM010cM010AcM011cM012cM012AcM012BcM012CcM012D",
   "cM012EcM012FcM012GcM012HcM013cM014cM015cM015AcM016cM016AcM017cM017AcM018cM019cM020cM021cM022",
   "cM022AcM023cM024cM024AcM025cM026cM027cM028cM028AcM029cM030cM031cM031AcM032cM033cM033AcM033B",
   "cM034cM035cM036cM037cM038cM039cM040cM040AcM041cM042cM043cM044cN001cN002cN003cN004cN005cN006",
   "cN007cN008cN009cN010cN011cN012cN013cN014cN015cN016cN017cN018cN018AcN018BcN019cN020cN021cN022",
   "cN023cN024cN025cN025AcN026cN027cN028cN029cN030cN031cN032cN033cN033AcN034cN034AcN035cN035AcN036",
   "cN037cN037AcN038cN039cN040cN041cN042cNL001cNL002cNL003cNL004cNL005cNL005AcNL006cNL007cNL008",
   "cNL009cNL010cNL011cNL012cNL013cNL014cNL015cNL016cNL017cNL017AcNL018cNL019cNL020cNU001cNU002",
   "cNU003cNU004cNU005cNU006cNU007cNU008cNU009cNU010cNU010AcNU011cNU011AcNU012cNU013cNU014cNU015",
   "cNU016cNU017cNU018cNU018AcNU019cNU020cNU021cNU022cNU022AcO001cO001AcO002cO003cO004cO005cO005A",
   "cO006cO006AcO006BcO006CcO006DcO006EcO006FcO007cO008cO009cO010cO010AcO010BcO010CcO011cO012cO013",
   "cO014cO015cO016cO017cO018cO019cO019AcO020cO020AcO021cO022cO023cO024cO024AcO025cO025AcO026cO027",
   "cO028cO029cO029AcO030cO030AcO031cO032cO033cO033AcO034cO035cO036cO036AcO036BcO036CcO036DcO037",
   "cO038cO039cO040cO041cO042cO043cO044cO045cO046cO047cO048cO049cO050cO050AcO050BcO051",
   "cOVERLAY MIDDLEcP001cP001AcP002cP003cP003AcP004cP005cP006cP007cP008cP009cP010cP011cQ001cQ002",
   "cQ003cQ004cQ005cQ006cQ007cR001cR002cR002AcR003cR003AcR003BcR004cR005cR006cR007cR008cR009cR010",
   "cR010AcR011cR012cR013cR014cR015cR016cR016AcR017cR018cR019cR020cR021cR022cR023cR024cR025cR026",
   "cR027cR028cR029cS001cS002cS002AcS003cS004cS005cS006cS006AcS007cS008cS009cS010cS011cS012cS013",
   "cS014cS014AcS014BcS015cS016cS017cS017AcS018cS019cS020cS021cS022cS023cS024cS025cS026cS026AcS026B",
   "cS027cS028cS029cS030cS031cS032cS033cS034cS035cS035AcS036cS037cS038cS039cS040cS041cS042cS043",
   "cS044cS045cS046cT001cT002cT003cT003AcT004cT005cT006cT007cT007AcT008cT008AcT009cT009AcT010cT011",
   "cT011AcT012cT013cT014cT015cT016cT016AcT017cT018cT019cT020cT021cT022cT023cT024cT025cT026cT027",
   "cT028cT029cT030cT031cT032cT032AcT033cT033AcT034cT035cT036cU001cU002cU003cU004cU005cU006cU006A",
   "cU006BcU007cU008cU009cU010cU011cU012cU013cU014cU015cU016cU017cU018cU019cU020cU021cU022cU023",
   "cU023AcU024cU025cU026cU027cU028cU029cU029AcU030cU031cU032cU032AcU033cU034cU035cU036cU037cU038",
   "cU039cU040cU041cU042cV001cV001AcV001BcV001CcV001DcV001EcV001FcV001GcV001HcV001IcV002cV002AcV003",
   "cV004cV005cV006cV007cV007AcV007BcV008cV009cV010cV011cV011AcV011BcV011CcV012cV012AcV012BcV013",
   "cV014cV015cV016cV017cV018cV019cV020cV020AcV020BcV020CcV020DcV020EcV020FcV020GcV020HcV020IcV020J",
   "cV020KcV020LcV021cV022cV023cV023AcV024cV025cV026cV027cV028cV028AcV029cV029AcV030cV030AcV031",
   "cV031AcV032cV033cV033AcV034cV035cV036cV037cV037AcV038cV039cV040cV040AcVERTICAL JOINERcW001cW002",
   "cW003cW003AcW004cW005cW006cW007cW008cW009cW009AcW010cW010AcW011cW012cW013cW014cW014AcW015cW016",
   "cW017cW017AcW018cW018AcW019cW020cW021cW022cW023cW024cW024AcW025cX001cX002cX003cX004cX004AcX004B",
   "cX005cX006cX006AcX007cX008cX008AcY001cY001AcY002cY003cY004cY005cY006cY007cY008cZ001cZ002cZ002A",
   "cZ002BcZ002CcZ002DcZ003cZ003AcZ003BcZ004cZ004AcZ005cZ005AcZ006cZ007cZ008cZ009cZ010cZ011cZ012",
   "cZ013cZ014cZ015cZ015AcZ015BcZ015CcZ015DcZ015EcZ015FcZ015GcZ015HcZ015IcZ016cZ016AcZ016BcZ016C",
   "cZ016DcZ016EcZ016FcZ016GcZ016HaEIGHT PETALLED OUTLINED BLACK FLORETTEbPOINTED BLACK STAR",
   "cPINWHEEL STARcRECTILINEAR BLACK STARbSPOKED ASTERISKbTEARDROP-SPOKED PROPELLER ASTERISK",
   "aEIGHTH NOTEaEJECT SYMBOLaELBASAN LETTER AcBEcCEcCHEcDEcDHEcEcEIcFEcGEcGHAMMAcGHEcGJEcHEcIcJE",
   "cKEcKHEcLEcLLEcMEcNAcNDEcNEcNJEcOcPEcQEcREcRREcSEcSHEcTEcTHEcUcVEcXEcYcZEcZHEaELECTRIC ARROW",
   "bLIGHT BULBbPLUGbTORCHaELECTRICAL INTERSECTIONaELEMENT OFbOF OPENING DOWNWARDSdUPWARDS",
   "cWITH DOT ABOVEdLONG HORIZONTAL STROKEdOVERBARdTWO HORIZONTAL STROKESdUNDERBAR",
   "dVERTICAL BAR AT END OF HORIZONTAL STROKEaELEPHANTaELEVATORaELFaELYMAIC LETTER ALEPHcAYINcBETH",
   "cDALETHcGIMELcHEcHETHcKAPHcLAMEDHcMEMcNUNcPEcQOPHcRESHcSADHEcSAMEKHcSHINcTAWcTETHcWAWcYODH",
   "cZAYINbLIGATURE ZAYIN-YODHaEM DASHbQUADbSPACEaEMOJI COMPONENT BALDcCURLY HAIRcRED HAIR",
   "cWHITE HAIRbMODIFIER FITZPATRICK TYPE-1-2e3e4e5e6aEMPHASIS SYMBOLaEMPTY DOCUMENTbNESTbNOTE",
   "bNOTE PADcPAGEbPAGEbPAGESbSETbSET WITH LEFT ARROW ABOVEdOVERBARdRIGHT ARROW ABOVE",
   "dSMALL CIRCLE ABOVEaEN DASHbQUADbSPACEaEND OF GUARDED AREAcLINEcMEDIUMcPROOFcPROTECTED AREA",
   "cSELECTED AREAcTEXTcTRANSMISSIONcTRANSMISSION BLOCKbWITH LEFTWARDS ARROW ABOVEaENQaENQUIRY",
   "aENTER SYMBOLaENVELOPEaENVELOPE WITH DOWNWARDS ARROW ABOVEcLIGHTNINGaEOLaEOMaEOTaEPA",
   "aEQUAL AND PARALLEL TObTO BY DEFINITIONcOR GREATER-THANdLESS-THANdPRECEDESdSUCCEEDS",
   "aEQUALS COLONbSIGNbSIGN ABOVE LEFTWARDS ARROWdPLUS SIGNdRIGHTWARDS ARROWdTILDE OPERATOR",
   "cAND SLANTED PARALLELePARALLEL WITH TILDE ABOVEcWITH BUMPY ABOVEdDOT BELOWdINFINITY BELOW",
   "dTWO DOTS ABOVE AND TWO DOTS BELOWbWITH ASTERISKaEQUIANGULAR TOaEQUIVALENT TO",
   "bWITH FOUR DOTS ABOVEaERASE TO THE LEFTdRIGHTaERIS FORM ONEcTWOaERROR-BARRED BLACK CIRCLE",
   "dDIAMONDdSQUAREcWHITE CIRCLEdDIAMONDdSQUAREaESAaESCaESCAPEaESTIMATED SYMBOLaESTIMATESaETB",
   "aETHIOPIC COLONbCOMBINING GEMINATION AND VOWEL LENGTH MARKdMARKcVOWEL LENGTH MARKbCOMMA",
   "bDIGIT EIGHTcFIVEcFOURcNINEcONEcSEVENcSIXcTHREEcTWObFULL STOPbNUMBER EIGHTYcFIFTYcFORTYcHUNDRED",
   "cNINETYcSEVENTYcSIXTYcTENcTEN THOUSANDcTHIRTYcTWENTYbPARAGRAPH SEPARATORbPREFACE COLON",
   "bQUESTION MARKbSECTION MARKbSEMICOLONbSYLLABLE BAcBAAcBBAcBBAAcBBEcBBEEcBBIcBBOcBBUcBEcBEEcBI",
   "cBOcBOAcBUcBWAcBWEcBWEEcBWIcCAcCAAcCCAcCCAAcCCEcCCEEcCCHAcCCHAAcCCHEcCCHEEcCCHHAcCCHHAAcCCHHE",
   "cCCHHEEcCCHHIcCCHHOcCCHHUcCCHIcCCHOcCCHUcCCIcCCOcCCUcCEcCEEcCHAcCHAAcCHEcCHEEcCHIcCHOcCHOAcCHU",
   "cCHWAcCIcCOcCOAcCUcCWAcDAcDAAcDDAcDDAAcDDEcDDEEcDDHAAcDDHEcDDHEEcDDHIcDDHOcDDHUcDDIcDDOcDDOA",
   "cDDUcDDWAcDEcDEEcDIcDOcDOAcDUcDWAcDZAAcDZEcDZEEcDZIcDZOcDZUcFAcFAAcFEcFEEcFIcFOcFUcFWAcFWEcFWEE",
   "cFWIcFYAcGAcGAAcGEcGEEcGGAcGGAAcGGEcGGEEcGGIcGGOcGGUcGGWAcGGWAAcGGWEcGGWEEcGGWIcGIcGLOTTAL AdAA",
   "dEdEEdIdOdOAdUdWAcGOcGOAcGUcGURAGE BWEEdBWIdFWEEdFWIdGWEdGWEEdGWIdHHWAdKWEdKWEEdKWIdMWEEdMWI",
   "dPWEEdPWIdQWEdQWEEdQWIcGWAcGWAAcGWEcGWEEcGWIcGYAcGYAAcGYEcGYEEcGYIcGYOcGYUcHAcHAAcHEcHEEcHHA",
   "cHHAAcHHEcHHEEcHHIcHHOcHHUcHHWAcHHWEcHHWEEcHHWIcHHYAcHHYAAcHHYEcHHYEEcHHYIcHHYOcHHYUcHIcHOcHOA",
   "cHUcJAcJAAcJEcJEEcJIcJOcJOAcJUcJWAcKAcKAAcKEcKEEcKIcKOcKOAcKUcKWAcKWAAcKWEcKWEEcKWIcKXAcKXAA",
   "cKXEcKXEEcKXIcKXOcKXUcKXWAcKXWAAcKXWEcKXWEEcKXWIcKYAcKYAAcKYEcKYEEcKYIcKYOcKYUcLAcLAAcLEcLEEcLI",
   "cLOcLOAcLUcLWAcMAcMAAcMEcMEEcMIcMOcMOAcMUcMWAcMWEcMWEEcMWIcMYAcNAcNAAcNEcNEEcNIcNOcNOAcNUcNWA",
   "cNYAcNYAAcNYEcNYEEcNYIcNYOcNYOAcNYUcNYWAcPAcPAAcPEcPEEcPHAcPHAAcPHARYNGEAL AdAAdEdEEdIdOdUcPHE",
   "cPHEEcPHIcPHOcPHOAcPHUcPHWAcPIcPOcPOAcPUcPWAcPWEcPWEEcPWIcQAcQAAcQEcQEEcQHAcQHAAcQHEcQHEEcQHI",
   "cQHOcQHUcQHWAcQHWAAcQHWEcQHWEEcQHWIcQIcQOcQOAcQUcQWAcQWAAcQWEcQWEEcQWIcQYAcQYAAcQYEcQYEEcQYI",
   "cQYOcQYUcRAcRAAcREcREEcRIcROcROAcRUcRWAcRYAcSAcSAAcSEcSEBATBEIT BWAdFWAdMWAdPWAcSEEcSHAcSHAA",
   "cSHEcSHEEcSHIcSHOcSHOAcSHUcSHWAcSIcSOcSOAcSSAcSSAAcSSEcSSEEcSSIcSSOcSSUcSUcSWAcSZAcSZAAcSZE",
   "cSZEEcSZIcSZOcSZUcSZWAcTAcTAAcTEcTEEcTHAcTHAAcTHEcTHEEcTHIcTHOcTHOAcTHUcTHWAcTIcTOcTOAcTSAcTSAA",
   "cTSEcTSEEcTSIcTSOcTSUcTSWAcTTHAAcTTHEcTTHEEcTTHIcTTHOcTTHUcTUcTWAcTZAcTZAAcTZEcTZEEcTZIcTZO",
   "cTZOAcTZUcVAcVAAcVEcVEEcVIcVOcVUcVWAcWAcWAAcWEcWEEcWIcWOcWOAcWUcXAcXAAcXEcXEEcXIcXOcXOAcXUcXWA",
   "cXWAAcXWEcXWEEcXWIcXYAcXYAAcXYEcXYEEcXYIcXYOcXYUcYAcYAAcYEcYEEcYIcYOcYOAcYUcZAcZAAcZEcZEEcZHA",
   "cZHAAcZHEcZHEEcZHIcZHOcZHUcZHWAcZIcZOcZOAcZUcZWAcZZAcZZAAcZZEcZZEEcZZIcZZOcZZU",
   "bTONAL MARK CHIRETdDERETdDERET-HIDETdDIFATdHIDETdKENATdKURTdRIKRIKdSHORT RIKRIKdYIZETbWORDSPACE",
   "aETXaEULER CONSTANTaEURO SIGNaEURO-CURRENCY SIGNaEUROPEAN CASTLEbPOST OFFICEaEVERGREEN TREE",
   "aEXCESSaEXCLAMATION MARKbQUESTION MARKaEXPRESSIONLESS FACEaEXTENDED ARABIC-INDIC DIGIT EIGHT",
   "eFIVEeFOUReNINEeONEeSEVENeSIXeTHREEeTWOeZEROaEXTRATERRESTRIAL ALIEN",
   "aEXTREMELY HEAVY FIVE SPOKED ASTERISKcGREEK CROSScSALTIREcSIX SPOKED ASTERISKcWHITE CIRCLE",
   "dSQUAREaEYEaEYEGLASSESaEYESaFACE HOLDING BACK TEARSbMASSAGEbPALMbSAVOURING DELICIOUS FOOD",
   "bSCREAMING IN FEARbTHROWING A KISSbWITH COLD SWEATcCOWBOY HATcDIAGONAL MOUTH",
   "cFINGER COVERING CLOSED LIPScHEAD-BANDAGEcLOOK OF TRIUMPHcMEDICAL MASKcMONOCLEcNO GOOD GESTURE",
   "cOK GESTUREcONE EYEBROW RAISEDcOPEN EYES AND HAND OVER MOUTHdMOUTHdMOUTH AND COLD SWEAT",
   "eVOMITINGcPARTY HORN AND PARTY HATcPEEKING EYEcPLEADING EYEScROLLING EYEScSTUCK-OUT TONGUE",
   "eTONGUE AND TIGHTLY-CLOSED EYESgWINKING EYEcTEARS OF JOYcTHERMOMETERcUNEVEN EYES AND WAVY MOUTH",
   "bWITHOUT MOUTHaFACSIMILE SIGNaFACTORYaFAIRYaFALAFELaFALLEN LEAF",
   "aFALLING DIAGONAL CROSSING NORTH EAST ARROWdRISING DIAGONALcIN WHITE CIRCLE IN BLACK SQUARE",
   "aFAMILYaFARSI SYMBOLaFATHER CHRISTMASaFAX ICONbMACHINEaFEARFUL FACEaFEATHERaFEMALE SIGN",
   "aFEMININE ORDINAL INDICATORaFENCERaFERRIS WHEELaFERRYaFFaFIELD HOCKEY STICK AND BALL",
   "aFIGURE DASHbSPACEaFILE CABINETbFOLDERbSEPARATORaFILM FRAMESbPROJECTORaFINITE PART INTEGRAL",
   "aFIREaFIRE ENGINEbEXTINGUISHERaFIRECRACKERaFIREWORK SPARKLERaFIREWORKSaFIRST PLACE MEDAL",
   "bQUARTER MOONcMOON SYMBOLdWITH FACEbSTRONG ISOLATEaFISHaFISH CAKE WITH SWIRL DESIGNaFISHEYE",
   "aFISHING POLE AND FISHaFISTED HAND SIGNaFIVE DOT MARKcPUNCTUATIONaFLAG IN HOLEaFLAMINGO",
   "aFLAT SHOEaFLATBREADaFLATNESSaFLEUR-DE-LISaFLEXED BICEPSaFLOPPY DISKaFLORAL HEARTaFLOWER",
   "aFLOWER PLAYING CARDSbPUNCTUATION MARKaFLUSHED FACEaFLYaFLYING DISCbENVELOPEbSAUCERaFOGaFOGGY",
   "aFOLDERaFONDUEaFOOTaFOOTPRINTSaFOR ALLaFORCESaFORK AND KNIFEcKNIFE WITH PLATE",
   "aFORKED PARAGRAPHOSaFORKINGaFORM FEEDaFORTUNE COOKIEaFOUNTAINaFOUR BALLOON-SPOKED ASTERISK",
   "bCLUB-SPOKED ASTERISKbCORNER ARROWS CIRCLING ANTICLOCKWISEbDOT MARKcPUNCTUATIONbLEAF CLOVER",
   "bPOINTED BLACK STARbTEARDROP-SPOKED ASTERISKaFOUR-PER-EM SPACEaFOURTH ROOTaFOX FACE",
   "aFRACTION NUMERATOR ONEbSLASHaFRAME WITH AN XcPICTUREcTILESaFREEZING FACEaFRENCH FRANC SIGN",
   "bFRIESaFRIED SHRIMPaFROG FACEaFRONT-FACING BABY CHICKbTILTED SHADOWED WHITE RIGHTWARDS ARROW",
   "aFROWNaFROWNING FACE WITH OPEN MOUTHaFSaFSIaFUEL PUMPaFULL BLOCKbMOON SYMBOLcWITH FACE",
   "bOUTER JOINbSTOPaFULLWIDTH AMPERSANDbAPOSTROPHEbASTERISKbBROKEN BARbCENT SIGNbCIRCUMFLEX ACCENT",
   "bCOLONbCOMMAbCOMMERCIAL ATbDIGIT EIGHTcFIVEcFOURcNINEcONEcSEVENcSIXcTHREEcTWOcZERObDOLLAR SIGN",
   "bEQUALS SIGNbEXCLAMATION MARKbFULL STOPbGRAVE ACCENTbGREATER-THAN SIGNbHYPHEN-MINUS",
   "bLATIN CAPITAL LETTER AeBeCeDeEeFeGeHeIeJeKeLeMeNeOePeQeReSeTeUeVeWeXeYeZcSMALL LETTER AeBeCeD",
   "eEeFeGeHeIeJeKeLeMeNeOePeQeReSeTeUeVeWeXeYeZbLEFT CURLY BRACKETcPARENTHESIScSQUARE BRACKET",
   "cWHITE PARENTHESISbLESS-THAN SIGNbLOW LINEbMACRONbNOT SIGNbNUMBER SIGNbPERCENT SIGNbPLUS SIGN",
   "bPOUND SIGNbQUESTION MARKbQUOTATION MARKbREVERSE SOLIDUSbRIGHT CURLY BRACKETcPARENTHESIS",
   "cSQUARE BRACKETcWHITE PARENTHESISbSEMICOLONbSOLIDUSbTILDEbVERTICAL LINEbWON SIGNbYEN SIGN",
   "aFUNCTION APPLICATIONaFUNERAL URNaFUSEaFVS1aFVS2aFVS3aFVS4aGAME DIEaGARLICaGEAR",
   "aGEAR WITH HANDLESbWITHOUT HUBaGEM STONEaGEMINIaGENIEaGEOMETRIC PROPORTION",
   "aGEOMETRICALLY EQUAL TObEQUIVALENT TOaGEORGIAN CAPITAL LETTER AENdANdBANdCANdCHARdCHINdCILdDON",
   "dENdGANdGHANdHAEdHARdHEdHIEdHOEdINdJHANdJILdKANdKHARdLASdMANdNARdONdPARdPHARdQARdRAEdSANdSHIN",
   "dTANdTARdUNdVINdWEdXANdYNdZENdZHARbLETTER AENcAINcANcBANcCANcCHARcCHINcCILcDONcELIFIcENcFIcGAN",
   "cGHANcHAEcHARcHARD SIGNcHEcHIEcHOEcINcJHANcJILcKANcKHARcLABIAL SIGNcLAScMANcNARcONcPARcPHARcQAR",
   "cRAEcSANcSHINcTANcTARcTURNED GANcUNcVINcWEcXANcYNcZENcZHARbMTAVRULI CAPITAL LETTER AENeAINeAN",
   "eBANeCANeCHAReCHINeCILeDONeELIFIeENeFIeGANeGHANeHAEeHAReHARD SIGNeHEeHIEeHOEeINeJHANeJILeKAN",
   "eKHAReLABIAL SIGNeLASeMANeNAReONePARePHAReQAReRAEeSANeSHINeTANeTAReTURNED GANeUNeVINeWEeXANeYN",
   "eZENeZHARbPARAGRAPH SEPARATORbSMALL LETTER AENdANdBANdCANdCHARdCHINdCILdDONdENdGANdGHANdHAEdHAR",
   "dHEdHIEdHOEdINdJHANdJILdKANdKHARdLASdMANdNARdONdPARdPHARdQARdRAEdSANdSHINdTANdTARdUNdVINdWEdXAN",
   "dYNdZENdZHARaGERMAN PENNY SIGNaGETA MARKaGHOSTaGIMEL SYMBOLaGIRAFFE FACEaGIRLaGIRLS SYMBOL",
   "aGLAGOLITIC CAPITAL LETTER AZUdBIG YUSdBUKYdCAUDATE CHRIVIdCHRIVIdDJERVIdDOBROdDZELOdFITAdFRITU",
   "dGLAGOLIdHERUdIdINITIAL IZHEdIOTATED BIG YUSeSMALL YUSdIZHEdIZHITSAdKAKOdLATINATE MYSLITE",
   "dLJUDIJEdMYSLITEdNASHIdONUdOTUdPEdPOKOJIdRITSIdSHAdSHTAdSHTAPICdSLOVOdSMALL YUSeYUS WITH TAIL",
   "dSPIDERY HAdTROKUTASTI AdTSIdTVRIDOdUKUdVEDEdYATIdYERIdYERUdYESTUdYOdYUdZEMLJAdZHIVETE",
   "bSMALL LETTER AZUdBIG YUSdBUKYdCAUDATE CHRIVIdCHRIVIdDJERVIdDOBROdDZELOdFITAdFRITUdGLAGOLIdHERU",
   "dIdINITIAL IZHEdIOTATED BIG YUSeSMALL YUSdIZHEdIZHITSAdKAKOdLATINATE MYSLITEdLJUDIJEdMYSLITE",
   "dNASHIdONUdOTUdPEdPOKOJIdRITSIdSHAdSHTAdSHTAPICdSLOVOdSMALL YUSeYUS WITH TAILdSPIDERY HA",
   "dTROKUTASTI AdTSIdTVRIDOdUKUdVEDEdYATIdYERIdYERUdYESTUdYOdYUdZEMLJAdZHIVETEaGLASS OF MILK",
   "aGLEICH STARKaGLOBE WITH MERIDIANSaGLOVESaGLOWING STARaGOAL NETaGOATaGOGGLESaGOLFERaGORILLA",
   "aGOTHIC LETTER AHSAcAIHVUScBAIRKANcDAGScEIScFAIHUcGIBAcHAGLcHWAIRcIGGWScIUJAcJERcKUSMAcLAGUS",
   "cMANNAcNAUTHScNINE HUNDREDcNINETYcOTHALcPAIRTHRAcQAIRTHRAcRAIDAcSAUILcTEIWScTHIUTHcURUScWINJA",
   "aGRADUATION CAPaGRANTHA AU LENGTH MARKbLETTER AcAAcAIcAUcBAcBHAcCAcCHAcDAcDDAcDDHAcDHAcEEcGA",
   "cGHAcHAcIcIIcJAcJHAcKAcKHAcLAcLLAcMAcNAcNGAcNNAcNYAcOOcPAcPHAcRAcSAcSHAcSSAcTAcTHAcTTAcTTHAcU",
   "cUUcVAcVEDIC ANUSVARAdDOUBLE ANUSVARAcVOCALIC LdLLdRdRRcYAbOMbSIGN ANUSVARAcAVAGRAHA",
   "cCANDRABINDUcCOMBINING ANUSVARA ABOVEcNUKTAcPLUTAcVIRAMAcVISARGAbVOWEL SIGN AAdAIdAUdEEdIdIIdOO",
   "dUdUUdVOCALIC LeLLeReRRaGRAPESaGRAVE ACCENT",
   "aGREATER-THAN ABOVE DOUBLE-LINE EQUAL ABOVE LESS-THANdLESS-THAN ABOVE DOUBLE-LINE EQUAL",
   "dRIGHTWARDS ARROWdSIMILAR ABOVE LESS-THANeOR EQUAL",
   "dSLANTED EQUAL ABOVE LESS-THAN ABOVE SLANTED EQUALcAND NOT APPROXIMATEdSINGLE-LINE NOT EQUAL TO",
   "cBESIDE LESS-THANcBUT NOT EQUAL TOeEQUIVALENT TOcCLOSED BY CURVEeCURVE ABOVE SLANTED EQUAL",
   "cEQUAL TO OR LESS-THANcOR APPROXIMATEdEQUAL TOdEQUIVALENT TOdLESS-THANdSLANTED EQUAL TO",
   "fTO WITH DOT ABOVEiABOVE LEFTiINSIDEcOVER EQUAL TOcOVERLAPPING LESS-THANcSIGN",
   "cWITH CIRCLE INSIDEdDOTdQUESTION MARK ABOVEaGREEK ACROPHONIC ATTIC FIFTYdFIFTY STATERSeTALENTS",
   "eTHOUSANDeTHOUSAND STATERSdFIVEdFIVE HUNDREDeHUNDRED STATERSfTALENTSeSTATERSeTALENTSeTHOUSAND",
   "eTHOUSAND TALENTSdONE DRACHMAeHALFeHUNDRED STATERSfTALENTSeQUARTEReTHOUSAND STATERSfTALENTS",
   "dTEN MNASeSTATERSeTALENTSeTHOUSAND STATERScCARYSTIAN FIVE HUNDREDcCYRENAIC TWO DRACHMAS",
   "cDELPHIC FIVE MNAScEPIDAUREAN FIVE HUNDREDdTWOdTWO DRACHMAScHERAEUM ONE PLETHRON",
   "cHERMIONIAN FIFTYdONEdTENcMESSENIAN TENcNAXIAN FIVE HUNDREDcSTRATIAN FIFTY MNAScTHESPIAN FIFTY",
   "dFIVE HUNDREDeTHOUSANDdONEdONE HUNDREDeTHOUSANDdTENdTHIRTYdTHREE HUNDREDdTWOcTROEZENIAN FIFTY",
   "dFIFTY ALTERNATE FORMdFIVEdFIVE HUNDREDdTENdTEN ALTERNATE FORMbANO TELEIAbAROURA SIGN",
   "bARTABE SIGNbBETA SYMBOLbCAPITAL DOTTED LUNATE SIGMA SYMBOLcKAI SYMBOLcLETTER ALPHA",
   "dALPHA WITH DASIAfDASIA AND OXIAhOXIA AND PROSGEGRAMMENIhPERISPOMENI",
   "hPERISPOMENI AND PROSGEGRAMMENIhPROSGEGRAMMENIhVARIAhVARIA AND PROSGEGRAMMENIfMACRONfOXIA",
   "fPROSGEGRAMMENIfPSILIfPSILI AND OXIAhOXIA AND PROSGEGRAMMENIhPERISPOMENI",
   "hPERISPOMENI AND PROSGEGRAMMENIhPROSGEGRAMMENIhVARIAhVARIA AND PROSGEGRAMMENIfTONOSfVARIA",
   "fVRACHYdARCHAIC SAMPIdBETAdCHIdDELTAdEPSILONdEPSILON WITH DASIAfDASIA AND OXIAhVARIAfOXIAfPSILI",
   "fPSILI AND OXIAhVARIAfTONOSfVARIAdETAdETA WITH DASIAfDASIA AND OXIAhOXIA AND PROSGEGRAMMENI",
   "hPERISPOMENIhPERISPOMENI AND PROSGEGRAMMENIhPROSGEGRAMMENIhVARIAhVARIA AND PROSGEGRAMMENIfOXIA",
   "fPROSGEGRAMMENIfPSILIfPSILI AND OXIAhOXIA AND PROSGEGRAMMENIhPERISPOMENI",
   "hPERISPOMENI AND PROSGEGRAMMENIhPROSGEGRAMMENIhVARIAhVARIA AND PROSGEGRAMMENIfTONOSfVARIAdGAMMA",
   "dHETAdIOTAdIOTA WITH DASIAfDASIA AND OXIAhPERISPOMENIhVARIAfDIALYTIKAfMACRONfOXIAfPSILI",
   "fPSILI AND OXIAhPERISPOMENIhVARIAfTONOSfVARIAfVRACHYdKAPPAdLAMDAdMUdNUdOMEGAdOMEGA WITH DASIA",
   "fDASIA AND OXIAhOXIA AND PROSGEGRAMMENIhPERISPOMENIhPERISPOMENI AND PROSGEGRAMMENI",
   "hPROSGEGRAMMENIhVARIAhVARIA AND PROSGEGRAMMENIfOXIAfPROSGEGRAMMENIfPSILIfPSILI AND OXIA",
   "hOXIA AND PROSGEGRAMMENIhPERISPOMENIhPERISPOMENI AND PROSGEGRAMMENIhPROSGEGRAMMENIhVARIA",
   "hVARIA AND PROSGEGRAMMENIfTONOSfVARIAdOMICRONdOMICRON WITH DASIAfDASIA AND OXIAhVARIAfOXIA",
   "fPSILIfPSILI AND OXIAhVARIAfTONOSfVARIAdPAMPHYLIAN DIGAMMAdPHIdPIdPSIdRHOdRHO WITH DASIAdSAN",
   "dSHOdSIGMAdTAUdTHETAdUPSILONdUPSILON WITH DASIAfDASIA AND OXIAhPERISPOMENIhVARIAfDIALYTIKA",
   "fMACRONfOXIAfTONOSfVARIAfVRACHYdXIdYOTdZETAcLUNATE SIGMA SYMBOL",
   "cREVERSED DOTTED LUNATE SIGMA SYMBOLdLUNATE SIGMA SYMBOLcTHETA SYMBOLbDASIAbDASIA AND OXIA",
   "dPERISPOMENIdVARIAbDIALYTIKA AND OXIAdPERISPOMENIdVARIAcTONOSbDRACHMA SIGNbFIVE OBOLS SIGN",
   "bFOUR OBOLS SIGNbGRAMMA SIGNbINDICTION SIGNbINSTRUMENTAL NOTATION SYMBOL-1e11e12e13e14e17e18e19",
   "e2e23e24e25e26e27e29e30e32e36e37e38e39e4e40e42e43e45e47e48e49e5e50e51e52e53e54e7e8bKAI SYMBOL",
   "bKAPPA SYMBOLbKORONISbKYATHOS BASE SIGNbLETTER ARCHAIC KOPPAcDIGAMMAcKOPPAcSAMPI",
   "cSMALL CAPITAL GAMMAeLAMDAeOMEGAePIePSIeRHOcSTIGMAcYOTbLITRA SIGNbLOWER NUMERAL SIGN",
   "bLUNATE EPSILON SYMBOLcSIGMA SYMBOLbMETRETES SIGNbMUSICAL LEIMMAbNUMERAL SIGNbOBOL SIGN",
   "bONE HALF SIGNdSIGN ALTERNATE FORMcQUARTER SIGNbOUNKIA SIGNbOXIAbPERISPOMENIbPHI SYMBOL",
   "bPI SYMBOLbPROSGEGRAMMENIbPSILIbPSILI AND OXIAdPERISPOMENIdVARIAbQUESTION MARK",
   "bREVERSED LUNATE EPSILON SYMBOLbRHO SYMBOLcWITH STROKE SYMBOLbSINUSOID SIGN",
   "bSMALL DOTTED LUNATE SIGMA SYMBOLcLETTER ALPHAdALPHA WITH DASIAfDASIA AND OXIA",
   "hOXIA AND YPOGEGRAMMENIhPERISPOMENIhPERISPOMENI AND YPOGEGRAMMENIhVARIAhVARIA AND YPOGEGRAMMENI",
   "hYPOGEGRAMMENIfMACRONfOXIAfOXIA AND YPOGEGRAMMENIfPERISPOMENIfPERISPOMENI AND YPOGEGRAMMENI",
   "fPSILIfPSILI AND OXIAhOXIA AND YPOGEGRAMMENIhPERISPOMENIhPERISPOMENI AND YPOGEGRAMMENIhVARIA",
   "hVARIA AND YPOGEGRAMMENIhYPOGEGRAMMENIfTONOSfVARIAfVARIA AND YPOGEGRAMMENIfVRACHYfYPOGEGRAMMENI",
   "dARCHAIC KOPPAeSAMPIdBETAdCHIdDELTAdDIGAMMAdEPSILONdEPSILON WITH DASIAfDASIA AND OXIAhVARIA",
   "fOXIAfPSILIfPSILI AND OXIAhVARIAfTONOSfVARIAdETAdETA WITH DASIAfDASIA AND OXIA",
   "hOXIA AND YPOGEGRAMMENIhPERISPOMENIhPERISPOMENI AND YPOGEGRAMMENIhVARIAhVARIA AND YPOGEGRAMMENI",
   "hYPOGEGRAMMENIfOXIAfOXIA AND YPOGEGRAMMENIfPERISPOMENIfPERISPOMENI AND YPOGEGRAMMENIfPSILI",
   "fPSILI AND OXIAhOXIA AND YPOGEGRAMMENIhPERISPOMENIhPERISPOMENI AND YPOGEGRAMMENIhVARIA",
   "hVARIA AND YPOGEGRAMMENIhYPOGEGRAMMENIfTONOSfVARIAfVARIA AND YPOGEGRAMMENIfYPOGEGRAMMENI",
   "dFINAL SIGMAdGAMMAdHETAdIOTAdIOTA WITH DASIAfDASIA AND OXIAhPERISPOMENIhVARIAfDIALYTIKA",
   "fDIALYTIKA AND OXIAhPERISPOMENIhTONOShVARIAfMACRONfOXIAfPERISPOMENIfPSILIfPSILI AND OXIA",
   "hPERISPOMENIhVARIAfTONOSfVARIAfVRACHYdKAPPAdKOPPAdLAMDAdMUdNUdOMEGAdOMEGA WITH DASIA",
   "fDASIA AND OXIAhOXIA AND YPOGEGRAMMENIhPERISPOMENIhPERISPOMENI AND YPOGEGRAMMENIhVARIA",
   "hVARIA AND YPOGEGRAMMENIhYPOGEGRAMMENIfOXIAfOXIA AND YPOGEGRAMMENIfPERISPOMENI",
   "fPERISPOMENI AND YPOGEGRAMMENIfPSILIfPSILI AND OXIAhOXIA AND YPOGEGRAMMENIhPERISPOMENI",
   "hPERISPOMENI AND YPOGEGRAMMENIhVARIAhVARIA AND YPOGEGRAMMENIhYPOGEGRAMMENIfTONOSfVARIA",
   "fVARIA AND YPOGEGRAMMENIfYPOGEGRAMMENIdOMICRONdOMICRON WITH DASIAfDASIA AND OXIAhVARIAfOXIA",
   "fPSILIfPSILI AND OXIAhVARIAfTONOSfVARIAdPAMPHYLIAN DIGAMMAdPHIdPIdPSIdRHOdRHO WITH DASIAfPSILI",
   "dSAMPIdSANdSHOdSIGMAdSTIGMAdTAUdTHETAdUPSILONdUPSILON WITH DASIAfDASIA AND OXIAhPERISPOMENI",
   "hVARIAfDIALYTIKAfDIALYTIKA AND OXIAhPERISPOMENIhTONOShVARIAfMACRONfOXIAfPERISPOMENIfPSILI",
   "fPSILI AND OXIAhPERISPOMENIhVARIAfTONOSfVARIAfVRACHYdXIdZETA",
   "cREVERSED DOTTED LUNATE SIGMA SYMBOLdLUNATE SIGMA SYMBOLbSUBSCRIPT SMALL LETTER BETAeCHIeGAMMA",
   "ePHIeRHObSYMBOL TAU RHObTALENT SIGNbTHETA SYMBOLbTHREE OBOLS SIGNcQUARTERS SIGNbTONOS",
   "bTRYBLION BASE SIGNbTWO OBOLS SIGNcTHIRDS SIGNbUPSILON WITH ACUTE AND HOOK SYMBOL",
   "dDIAERESIS AND HOOK SYMBOLdHOOK SYMBOLbVARIAbVOCAL NOTATION SYMBOL-1e10e11e12e13e14e15e16e17e18",
   "e19e2e20e21e22e23e24e3e4e5e50e51e52e53e54e6e7e8e9bXESTES SIGNbYEAR SIGNbYPOGEGRAMMENIbZERO SIGN",
   "aGREEN APPLEbBOOKbHEARTbSALADaGRIMACING FACEaGRINNING CAT FACE WITH SMILING EYESbFACE",
   "bFACE WITH ONE LARGE AND ONE SMALL EYEdSMILING EYESdSTAR EYESaGROUP MARKbSEPARATOR",
   "aGROWING HEARTaGSaGUARANI SIGNaGUARDSMANaGUIDE DOGaGUITARaGUJARATI ABBREVIATION SIGN",
   "bDIGIT EIGHTcFIVEcFOURcNINEcONEcSEVENcSIXcTHREEcTWOcZERObLETTER AcAAcAIcAUcBAcBHAcCAcCHAcDAcDDA",
   "cDDHAcDHAcEcGAcGHAcHAcIcIIcJAcJHAcKAcKHAcLAcLLAcMAcNAcNGAcNNAcNYAcOcPAcPHAcRAcSAcSHAcSSAcTAcTHA",
   "cTTAcTTHAcUcUUcVAcVOCALIC LdLLdRdRRcYAcZHAbOMbRUPEE SIGNbSIGN ANUSVARAcAVAGRAHAcCANDRABINDU",
   "cCIRCLE NUKTA ABOVEcMADDAHcNUKTAcSHADDAcSUKUNcTHREE-DOT NUKTA ABOVEcTWO-CIRCLE NUKTA ABOVE",
   "cVIRAMAcVISARGAbVOWEL CANDRA EdOcSIGN AAdAIdAUdCANDRA EeOdEdIdIIdOdUdUUdVOCALIC LeLLeReRR",
   "aGUNJALA GONDI DIGIT EIGHTdFIVEdFOURdNINEdONEdSEVENdSIXdTHREEdTWOdZEROcLETTER AdAAdAIdAUdBAdBHA",
   "dCAdCHAdDAdDDAdDDHAdDHAdEEdGAdGHAdHAdIdIIdJAdJHAdKAdKHAdLAdLLAdMAdNAdNGAdOOdPAdPHAdRAdSAdTAdTHA",
   "dTTAdTTHAdUdUUdVAdYAcOMcSIGN ANUSVARAdVISARGAcVIRAMAcVOWEL SIGN AAeAIeAUeEEeIeIIeOOeUeUU",
   "aGURMUKHI ABBREVIATION SIGNbADDAKbDIGIT EIGHTcFIVEcFOURcNINEcONEcSEVENcSIXcTHREEcTWOcZERO",
   "bEK ONKARbIRIbLETTER AcAAcAIcAUcBAcBHAcCAcCHAcDAcDDAcDDHAcDHAcEEcFAcGAcGHAcGHHAcHAcIcIIcJAcJHA",
   "cKAcKHAcKHHAcLAcLLAcMAcNAcNGAcNNAcNYAcOOcPAcPHAcRAcRRAcSAcSHAcTAcTHAcTTAcTTHAcUcUUcVAcYAcZA",
   "bSIGN ADAK BINDIcBINDIcNUKTAcUDAATcVIRAMAcVISARGAcYAKASHbTIPPIbURAbVOWEL SIGN AAdAIdAUdEEdIdII",
   "dOOdUdUUaHADESaHAIR SPACEaHAIRCUTaHALFWIDTH BLACK SQUAREbDOWNWARDS ARROWbFORMS LIGHT VERTICAL",
   "bHANGUL FILLERcLETTER AdAEdCHIEUCHdCIEUCdEdEOdEUdHIEUHdIdIEUNGdKHIEUKHdKIYEOKdKIYEOK-SIOSdMIEUM",
   "dNIEUNdNIEUN-CIEUCeHIEUHdOdOEdPHIEUPHdPIEUPdPIEUP-SIOSdRIEULdRIEUL-HIEUHeKIYEOKeMIEUMePHIEUPH",
   "ePIEUPeSIOSeTHIEUTHdSIOSdSSANGCIEUCdSSANGKIYEOKdSSANGPIEUPdSSANGSIOSdSSANGTIKEUTdTHIEUTHdTIKEUT",
   "dUdWAdWAEdWEdWEOdWIdYAdYAEdYEdYEOdYIdYOdYUbIDEOGRAPHIC COMMAcFULL STOPbKATAKANA LETTER AdEdHA",
   "dHEdHIdHOdHUdIdKAdKEdKIdKOdKUdMAdMEdMIdMOdMUdNdNAdNEdNIdNOdNUdOdRAdREdRIdROdRUdSAdSEdSIdSMALL A",
   "eEeIeOeTUeUeYAeYOeYUdSOdSUdTAdTEdTIdTOdTUdUdWAdWOdYAdYOdYUcMIDDLE DOTcSEMI-VOICED SOUND MARK",
   "cVOICED SOUND MARKbKATAKANA-HIRAGANA PROLONGED SOUND MARKbLEFT CORNER BRACKETbLEFTWARDS ARROW",
   "bRIGHT CORNER BRACKETbRIGHTWARDS ARROWbUPWARDS ARROWbWHITE CIRCLEaHAMBURGERaHAMMER",
   "aHAMMER AND PICKcSICKLEcWRENCHaHAMSAaHAMSTER FACEaHAND WITH INDEX AND MIDDLE FINGERS CROSSED",
   "dFINGER AND THUMB CROSSEDaHANDBAGaHANDBALLaHANDSHAKEaHANGUL CHOSEONG CEONGCHIEUMCHIEUCH",
   "cCEONGCHIEUMCIEUCcCEONGCHIEUMSIOScCEONGCHIEUMSSANGCIEUCcCEONGCHIEUMSSANGSIOScCHIEUCH",
   "cCHIEUCH-HIEUHdKHIEUKHcCHITUEUMCHIEUCHcCHITUEUMCIEUCcCHITUEUMSIOScCHITUEUMSSANGCIEUC",
   "cCHITUEUMSSANGSIOScCIEUCcCIEUC-IEUNGcFILLERcHIEUHcHIEUH-SIOScIEUNGcIEUNG-CHIEUCHdCIEUCdHIEUH",
   "dKIYEOKdMIEUMdPANSIOSdPHIEUPHdPIEUPdRIEULdSIOSdTHIEUTHdTIKEUTcKAPYEOUNMIEUMcKAPYEOUNPHIEUPH",
   "cKAPYEOUNPIEUPcKAPYEOUNRIEULcKAPYEOUNSSANGPIEUPcKHIEUKHcKIYEOKcKIYEOK-TIKEUTcMIEUMcMIEUM-KIYEOK",
   "dPIEUPdSIOSdTIKEUTcNIEUNcNIEUN-CIEUCdHIEUHdKIYEOKdPIEUPdSIOSdTIKEUTcPANSIOScPHIEUPH",
   "cPHIEUPH-HIEUHdPIEUPcPIEUPcPIEUP-CHIEUCHdCIEUCdHIEUHdKHIEUKHdKIYEOKdNIEUNdPHIEUPHdSIOS",
   "dSIOS-CIEUCeKIYEOKePIEUPeTHIEUTHeTIKEUTdSSANGSIOSdTHIEUTHdTIKEUTcRIEULcRIEUL-CIEUCdHIEUH",
   "dKAPYEOUNPIEUPdKHIEUKHdKIYEOKdMIEUMdNIEUNdPIEUPdSIOSdSSANGKIYEOKdSSANGPIEUPdSSANGTIKEUTdTIKEUT",
   "cSIOScSIOS-CHIEUCHdCIEUCdHIEUHdIEUNGdKHIEUKHdKIYEOKdMIEUMdNIEUNdPHIEUPHdPIEUPdPIEUP-KIYEOK",
   "dRIEULdSSANGSIOSdTHIEUTHdTIKEUTcSSANGCIEUCcSSANGCIEUC-HIEUHcSSANGHIEUHcSSANGIEUNGcSSANGKIYEOK",
   "cSSANGNIEUNcSSANGPIEUPcSSANGRIEULcSSANGSIOScSSANGSIOS-PIEUPcSSANGTHIEUTHcSSANGTIKEUT",
   "cSSANGYEORINHIEUHcTHIEUTHcTIKEUTcTIKEUT-CIEUCdKIYEOKdMIEUMdPIEUPdRIEULdSIOScYEORINHIEUH",
   "cYESIEUNGbDOUBLE DOT TONE MARKbFILLERbJONGSEONG CHIEUCHcCIEUCcCIEUC-PIEUPdSSANGPIEUPcHIEUH",
   "cHIEUH-MIEUMdNIEUNdPIEUPdRIEULcIEUNGcIEUNG-KHIEUKHdKIYEOKdSSANGKIYEOKcKAPYEOUNMIEUM",
   "cKAPYEOUNPHIEUPHcKAPYEOUNPIEUPcKAPYEOUNRIEULcKHIEUKHcKIYEOKcKIYEOK-CHIEUCHdHIEUHdKHIEUKHdNIEUN",
   "dPIEUPdRIEULdSIOSdSIOS-KIYEOKcMIEUMcMIEUM-CHIEUCHdCIEUCdHIEUHdKIYEOKdNIEUNdPANSIOSdPIEUP",
   "dPIEUP-SIOSdRIEULdSIOSdSSANGNIEUNdSSANGSIOScNIEUNcNIEUN-CHIEUCHdCIEUCdHIEUHdKIYEOKdPANSIOS",
   "dRIEULdSIOSdTHIEUTHdTIKEUTcPANSIOScPANSIOS-KAPYEOUNPIEUPdPIEUPcPHIEUPHcPHIEUPH-PIEUPdSIOS",
   "dTHIEUTHcPIEUPcPIEUP-CHIEUCHdCIEUCdHIEUHdMIEUMdPHIEUPHdRIEULdRIEUL-PHIEUPHdSIOSdSIOS-TIKEUT",
   "dTIKEUTcRIEULcRIEUL-HIEUHdKAPYEOUNPIEUPdKHIEUKHdKIYEOKdKIYEOK-HIEUHeSIOSdMIEUMdMIEUM-HIEUH",
   "eKIYEOKeSIOSdNIEUNdPANSIOSdPHIEUPHdPIEUPdPIEUP-HIEUHePHIEUPHeSIOSeTIKEUTdSIOSdSSANGKIYEOK",
   "dSSANGSIOSdTHIEUTHdTIKEUTdTIKEUT-HIEUHdYEORINHIEUHdYEORINHIEUH-HIEUHdYESIEUNGcSIOScSIOS-CHIEUCH",
   "dCIEUCdHIEUHdKAPYEOUNPIEUPdKIYEOKdMIEUMdPANSIOSdPIEUPdRIEULdTHIEUTHdTIKEUTcSSANGCIEUC",
   "cSSANGIEUNGcSSANGKIYEOKcSSANGMIEUMcSSANGNIEUNcSSANGPIEUPcSSANGRIEULcSSANGRIEUL-KHIEUKH",
   "cSSANGSIOScSSANGSIOS-KIYEOKdTIKEUTcSSANGTIKEUTcSSANGTIKEUT-PIEUPcSSANGYESIEUNGcTHIEUTHcTIKEUT",
   "cTIKEUT-CHIEUCHdCIEUCdKIYEOKdPIEUPdRIEULdSIOSdSIOS-KIYEOKdTHIEUTHcYEORINHIEUHcYESIEUNG",
   "cYESIEUNG-HIEUHdKHIEUKHdKIYEOKdMIEUMdPANSIOSdSIOSdSSANGKIYEOKbJUNGSEONG AcA-EUdOdUcAEcARAEA",
   "cARAEA-AdEdEOdIdUcEcEOcEO-EUdOdUcEUcEU-AdEdEOdEUdOdUcFILLERcIcI-AdARAEAdEUdIdOdO-IdUdYAdYA-O",
   "dYAEdYEdYEOdYOdYUcOcO-EdEOdOdO-IdUdYAdYAEdYEdYEOcOEcSSANGARAEAcUcU-AdAEdEO-EUdI-IdUdYEdYEOcWA",
   "cWAEcWEcWEOcWIcYAcYA-OdUdYOcYAEcYEcYEOcYEO-OdUdYAcYIcYI-UcYOcYO-AdAEdEOdIdOdYAdYAEdYEOcYUcYU-A",
   "dAEdEdEOdIdOdUdYEdYEObLETTER AcAEcARAEAcARAEAEcCHIEUCHcCIEUCcEcEOcEUcHIEUHcIcIEUNG",
   "cKAPYEOUNMIEUMcKAPYEOUNPHIEUPHcKAPYEOUNPIEUPcKAPYEOUNSSANGPIEUPcKHIEUKHcKIYEOKcKIYEOK-SIOS",
   "cMIEUMcMIEUM-PANSIOSdPIEUPdSIOScNIEUNcNIEUN-CIEUCdHIEUHdPANSIOSdSIOSdTIKEUTcOcOEcPANSIOS",
   "cPHIEUPHcPIEUPcPIEUP-CIEUCdKIYEOKdSIOSdSIOS-KIYEOKeTIKEUTdTHIEUTHdTIKEUTcRIEULcRIEUL-HIEUH",
   "dKIYEOKdKIYEOK-SIOSdMIEUMdPANSIOSdPHIEUPHdPIEUPdPIEUP-SIOSdSIOSdTHIEUTHdTIKEUTdYEORINHIEUHcSIOS",
   "cSIOS-CIEUCdKIYEOKdNIEUNdPIEUPdTIKEUTcSSANGCIEUCcSSANGHIEUHcSSANGIEUNGcSSANGKIYEOKcSSANGNIEUN",
   "cSSANGPIEUPcSSANGSIOScSSANGTIKEUTcTHIEUTHcTIKEUTcUcWAcWAEcWEcWEOcWIcYAcYAEcYEcYEOcYEORINHIEUH",
   "cYESIEUNGcYESIEUNG-PANSIOSdSIOScYIcYOcYO-IdYAdYAEcYUcYU-IdYEdYEObSINGLE DOT TONE MARK",
   "aHANGZHOU NUMERAL EIGHTcFIVEcFOURcNINEcONEcSEVENcSIXcTENcTHIRTYcTHREEcTWENTYcTWO",
   "aHANIFI ROHINGYA DIGIT EIGHTdFIVEdFOURdNINEdONEdSEVENdSIXdTHREEdTWOdZEROcLETTER AdBAdCAdDAdDDA",
   "dFAdGAdHAdJAdKAdKHAdKINNA WAeYAdLAdMAdNAdNGAdNYAdPAdRAdRRAdSAdSHAdTAdTTAdVAdWAdYAdZA",
   "cMARK NA KHONNAdSAKINcSIGN HARBAHAYdTAHALAdTANAdTASSIcVOWEL AdEdIdOdUaHANUNOO LETTER AcBAcDAcGA",
   "cHAcIcKAcLAcMAcNAcNGAcPAcRAcSAcTAcUcWAcYAbSIGN PAMUDPODbVOWEL SIGN IdU",
   "aHAPPY PERSON RAISING ONE HANDaHARD DISKaHATCHING CHICKaHATRAN LETTER ALEPHcAYNcBETH",
   "cDALETH-RESHcGIMELcHEcHETHcKAPHcLAMEDHcMEMcNUNcPEcQOPHcSADHEcSAMEKHcSHINcTAWcTETHcWAWcYODHcZAYN",
   "bNUMBER FIVEcONEcONE HUNDREDcTENcTWENTYaHEADPHONEaHEADSTONEaHEADSTONE GRAVEYARD SYMBOL",
   "aHEAR-NO-EVIL MONKEYaHEART DECORATIONbHANDSbWITH ARROWcRIBBONcTIP ON THE LEFT",
   "aHEAVY AMPERSAND ORNAMENTbARROW SHAFT WIDTH ONEeONE HALFfTHIRDeTWO THIRDSbASTERISKbBALLOT X",
   "bBLACK CURVED DOWNWARDS AND RIGHTWARDS ARROWdUPWARDS AND RIGHTWARDS ARROWcHEART",
   "bBLACK-FEATHERED NORTH EAST ARROWdRIGHTWARDS ARROWdSOUTH EAST ARROWbCHECK MARK",
   "bCHEVRON SNOWFLAKEbCIRCLEbCIRCLE WITH CIRCLE INSIDEdSTROKE AND TWO DOTS ABOVEbCIRCLED SALTIRE",
   "bCONCAVE-POINTED BLACK RIGHTWARDS ARROWbDASHED TRIANGLE-HEADED RIGHTWARDS ARROWbDIVISION SIGN",
   "bDOLLAR SIGNbDOUBLE COMMA QUOTATION MARK ORNAMENTcTURNED COMMA QUOTATION MARK ORNAMENT",
   "bDOWNWARDS ARROW WITH EQUILATERAL ARROWHEADeLARGE EQUILATERAL ARROWHEAD",
   "bEIGHT POINTED BLACK STARdPINWHEEL STARdRECTILINEAR BLACK STARcSPOKED ASTERISK",
   "cTEARDROP-SPOKED PROPELLER ASTERISKbEQUALS SIGNbEXCLAMATION MARK ORNAMENTdSYMBOL",
   "bFIVE POINTED BLACK STARcSPOKED ASTERISKbFOUR BALLOON-SPOKED ASTERISKbGREEK CROSS",
   "bHEART EXCLAMATION MARK ORNAMENTbHORIZONTAL FILLbINTERROBANG ORNAMENTbLARGE CIRCLEbLATIN CROSS",
   "bLEFT-POINTING ANGLE BRACKET ORNAMENTeQUOTATION MARK ORNAMENT",
   "bLEFTWARDS ARROW WITH EQUILATERAL ARROWHEADeLARGE EQUILATERAL ARROWHEAD",
   "bLIGATURE OPEN ET ORNAMENTbLOW DOUBLE COMMA QUOTATION MARK ORNAMENT",
   "cSINGLE COMMA QUOTATION MARK ORNAMENTbLOWER RIGHT-SHADOWED WHITE RIGHTWARDS ARROWbMINUS SIGN",
   "bMULTIPLICATION XbNORTH EAST ARROWdPOINTING BUDeVINE LEAFcWEST POINTING BUDeVINE LEAF",
   "bOPEN CENTRE CROSSbOUTLINED BLACK STARbOVAL WITH OVAL INSIDEbPLUS SIGN",
   "bRIGHT-POINTING ANGLE BRACKET ORNAMENTeQUOTATION MARK ORNAMENTbRIGHTWARDS ARROW",
   "cARROW WITH EQUILATERAL ARROWHEADeLARGE EQUILATERAL ARROWHEADbROUND-TIPPED RIGHTWARDS ARROW",
   "bSALTIREbSANS-SERIF INTERROBANG ORNAMENTbSCRIPT LIGATURE ET ORNAMENT",
   "bSINGLE COMMA QUOTATION MARK ORNAMENTcTURNED COMMA QUOTATION MARK ORNAMENT",
   "bSIX POINTED BLACK STARcSPOKED ASTERISKbSOUTH EAST ARROWdPOINTING BUDeVINE LEAF",
   "cWEST POINTING BUDeVINE LEAFbSPARKLEbTEARDROP-SHANKED RIGHTWARDS ARROWcSPOKED ASTERISK",
   "dPINWHEEL ASTERISKbTRIANGLE-HEADED RIGHTWARDS ARROWbTWELVE POINTED BLACK STARdPINWHEEL STAR",
   "bUPPER RIGHT-SHADOWED WHITE RIGHTWARDS ARROWbUPWARDS ARROW WITH EQUILATERAL ARROWHEAD",
   "eLARGE EQUILATERAL ARROWHEADbVERTICAL BARbWEDGE-TAILED RIGHTWARDS ARROWbWHITE CIRCLE",
   "cDOWN-POINTING TRIANGLEcSQUAREbWIDE-HEADED RIGHTWARDS ARROWaHEBREW ACCENT ATNAH HAFUKHcDARGA",
   "cDEHIcETNAHTAcGERESHcGERESH MUQDAMcGERSHAYIMcILUYcMAHAPAKHcMERKHAcMERKHA KEFULAcMUNAHcOLE",
   "cPASHTAcPAZERcQADMAcQARNEY PARAcREVIAcSEGOLcSHALSHELETcTELISHA GEDOLAdQETANAcTEVIRcTIPEHA",
   "cYERAH BEN YOMOcYETIVcZAQEF GADOLdQATANcZARQAcZINORbLETTER ALEFcALEF WITH MAPIQePATAHeQAMATS",
   "cALTERNATIVE AYINdPLUS SIGNcAYINcBETcBET WITH DAGESHeRAFEcDALETcDALET WITH DAGESHcFINAL KAF",
   "dKAF WITH DAGESHdMEMdNUNdPEdPE WITH DAGESHdTSADIcGIMELcGIMEL WITH DAGESHcHEcHE WITH MAPIQcHET",
   "cKAFcKAF WITH DAGESHeRAFEcLAMEDcLAMED WITH DAGESHcMEMcMEM WITH DAGESHcNUNcNUN WITH DAGESHcPE",
   "cPE WITH DAGESHeRAFEcQOFcQOF WITH DAGESHcRESHcRESH WITH DAGESHcSAMEKHcSAMEKH WITH DAGESHcSHIN",
   "cSHIN WITH DAGESHeDAGESH AND SHIN DOTgSIN DOTeSHIN DOTeSIN DOTcTAVcTAV WITH DAGESHcTET",
   "cTET WITH DAGESHcTSADIcTSADI WITH DAGESHcVAVcVAV WITH DAGESHeHOLAMcWIDE ALEFdDALETdFINAL MEMdHE",
   "dKAFdLAMEDdRESHdTAVcYODcYOD WITH DAGESHeHIRIQcZAYINcZAYIN WITH DAGESHbLIGATURE ALEF LAMED",
   "cYIDDISH DOUBLE VAVeYODdVAV YODdYOD YOD PATAHbMARK LOWER DOTcMASORA CIRCLEcUPPER DOT",
   "bPOINT DAGESH OR MAPIQcHATAF PATAHdQAMATSdSEGOLcHIRIQcHOLAMcHOLAM HASER FOR VAV",
   "cJUDEO-SPANISH VARIKAcMETEGcPATAHcQAMATScQAMATS QATANcQUBUTScRAFEcSEGOLcSHEVAcSHIN DOTcSIN DOT",
   "cTSEREbPUNCTUATION GERESHcGERSHAYIMcMAQAFcNUN HAFUKHAcPASEQcSOF PASUQbYOD TRIANGLEaHEDGEHOG",
   "aHELICOPTERaHELLSCHREIBER PAUSE SYMBOLaHELM SYMBOLaHELMET WITH WHITE CROSS",
   "aHENTAIGANA LETTER A-1d2d3dWOcE-1d2d3d4d5d6cHA-1d10d11d2d3d4d5d6d7d8d9cHE-1d2d3d4d5d6d7cHI-1d2",
   "d3d4d5d6d7cHO-1d2d3d4d5d6d7d8cHU-1d2d3cI-1d2d3d4cKA-1d10d11d2d3d4d5d6d7d8d9dKEcKE-1d2d3d4d5d6",
   "cKI-1d2d3d4d5d6d7d8cKO-1d2d3dKIcKU-1d2d3d4d5d6d7cMA-1d2d3d4d5d6d7cME-1d2dMAcMI-1d2d3d4d5d6d7",
   "cMO-1d2d3d4d5d6cMU-1d2d3d4cN-MU-MO-1f2cNA-1d2d3d4d5d6d7d8d9cNE-1d2d3d4d5d6dKOcNI-1d2d3d4d5d6d7",
   "dTEcNO-1d2d3d4d5cNU-1d2d3cO-1d2d3cRA-1d2d3d4cRE-1d2d3d4cRI-1d2d3d4d5d6d7cRO-1d2d3d4d5d6cRU-1d2",
   "d3d4d5d6cSA-1d2d3d4d5d6d7d8cSE-1d2d3d4d5cSI-1d2d3d4d5d6cSO-1d2d3d4d5d6d7cSU-1d2d3d4d5d6d7d8",
   "cTA-1d2d3d4cTE-1d2d3d4d5d6d7d8d9cTI-1d2d3d4d5d6d7cTO-1d2d3d4d5d6dRAcTU-1d2d3d4dTOcU-1d2d3d4d5",
   "cWA-1d2d3d4d5cWE-1d2d3d4cWI-1d2d3d4d5cWO-1d2d3d4d5d6d7cYA-1d2d3d4d5dYOcYO-1d2d3d4d5d6cYU-1d2d3",
   "d4aHERBaHERMITIAN CONJUGATE MATRIXaHEXAGRAM FOR ABUNDANCEcAFTER COMPLETIONcAPPROACH",
   "cBEFORE COMPLETIONcBITING THROUGHcBREAKTHROUGHcCOMING TO MEETcCONFLICTcCONTEMPLATION",
   "cDARKENING OF THE LIGHTcDECREASEcDELIVERANCEcDEVELOPMENTcDIFFICULTY AT THE BEGINNINGcDISPERSION",
   "cDURATIONcENTHUSIASMcFELLOWSHIPcFOLLOWINGcGATHERING TOGETHERcGRACEcGREAT POSSESSIONdPOWER",
   "dPREPONDERANCEdTAMINGcHOLDING TOGETHERcINCREASEcINFLUENCEcINNER TRUTHcINNOCENCEcLIMITATION",
   "cMODESTYcMOUTH CORNERScOBSTRUCTIONcOPPOSITIONcOPPRESSIONcPEACEcPROGRESScPUSHING UPWARDcRETREAT",
   "cRETURNcREVOLUTIONcSMALL PREPONDERANCEdTAMINGcSPLITTING APARTcSTANDSTILLcTHE ABYSMAL WATERdARMY",
   "dAROUSING THUNDERdCAULDRONdCLINGING FIREdCREATIVE HEAVENdFAMILYdGENTLE WINDdJOYOUS LAKE",
   "dKEEPING STILL MOUNTAINdMARRYING MAIDENdRECEPTIVE EARTHdWANDERERdWELLcTREADINGcWAITING",
   "cWORK ON THE DECAYEDcYOUTHFUL FOLLYaHIBISCUSaHIGH BRIGHTNESS SYMBOLbOCTET PRESETbVOLTAGE SIGN",
   "aHIGH-HEELED SHOEbSPEED TRAINcTRAIN WITH BULLET NOSEaHIKING BOOTaHINDU TEMPLEaHIPPOPOTAMUS",
   "aHIRAGANA DIGRAPH YORIbITERATION MARKbLETTER AcARCHAIC WUdYEcBAcBEcBIcBOcBUcDAcDEcDIcDOcDUcEcGA",
   "cGEcGIcGOcGUcHAcHEcHIcHOcHUcIcKAcKEcKIcKOcKUcMAcMEcMIcMOcMUcNcNAcNEcNIcNOcNUcOcPAcPEcPIcPOcPU",
   "cRAcREcRIcROcRUcSAcSEcSIcSMALL AdEdIdKAdKEdOdTUdUdWAdWEdWIdWOdYAdYOdYUcSOcSUcTAcTEcTIcTOcTUcU",
   "cVUcWAcWEcWIcWOcYAcYOcYUcZAcZEcZIcZOcZUbVOICED ITERATION MARKaHISTORIC SITEaHOCHOaHOLE",
   "aHOLLOW QUILT SQUARE ORNAMENTdORNAMENT IN BLACK SQUAREaHOMOTHETICaHONEY POTaHONEYBEEaHOOKaHOP",
   "aHORIZONTAL BARbBLACK HEXAGONcOCTAGONbELLIPSISbLINE EXTENSIONbMALE WITH STROKE SIGN",
   "bONE EIGHTH BLOCK-1358e2e3e4e5e6e7bSCAN LINE-1d3d7d9bTAB KEYbTABULATIONbTABULATION SET",
   "cWITH JUSTIFICATIONbTRAFFIC LIGHTaHORSEaHORSE FACEbRACINGaHOSPITALaHOT BEVERAGEbDOGbPEPPER",
   "bSPRINGSaHOTELaHOURGLASSaHOURGLASS WITH FLOWING SANDaHOUSEaHOUSE BUILDINGbBUILDINGSbWITH GARDEN",
   "aHRYVNIA SIGNaHTaHTJaHTSaHUGGING FACEaHUNDRED POINTS SYMBOLaHUSHED FACEaHUTaHYGIEAaHYPHEN",
   "aHYPHEN BULLETbWITH DIAERESISaHYPHEN-MINUSaHYPHENATION POINTaHYPODIASTOLEaHYSTERESIS SYMBOL",
   "aI LOVE YOU HAND SIGNaICE CREAMbCUBEbHOCKEY STICK AND PUCKbSKATEaIDENTICAL TO",
   "bTO AND SLANTED PARALLELbWITH DOT ABOVEaIDENTIFICATION CARDaIDEOGRAPHIC ANNOTATION BOTTOM MARK",
   "cEARTH MARKcFIRST MARKcFOUR MARKcFOURTH MARKcHEAVEN MARKcLINKING MARKcMAN MARKcMIDDLE MARK",
   "cONE MARKcREVERSE MARKcSECOND MARKcTHIRD MARKcTHREE MARKcTOP MARKcTWO MARKbCLOSING MARKbCOMMA",
   "bDEPARTING TONE MARKbDESCRIPTION CHARACTER ABOVE TO BELOWfMIDDLE AND BELOWdFULL SURROUND",
   "dLEFT TO MIDDLE AND RIGHTfRIGHTdOVERLAIDdSURROUND FROM ABOVEfBELOWfLEFTfLOWER LEFTfUPPER LEFT",
   "gRIGHTbENTERING TONE MARKbFULL STOPbHALF FILL SPACEbITERATION MARKbLEVEL TONE MARKbNUMBER ZERO",
   "bRISING TONE MARKbSPACEbTALLY MARK FIVEdFOURdONEdTHREEdTWObTELEGRAPH LINE FEED SEPARATOR SYMBOL",
   "cSYMBOL FOR APRILeAUGUSTeDAY EIGHTfEIGHTEENfELEVENfFIFTEENfFIVEfFOURfFOURTEENfNINEfNINETEENfONE",
   "fSEVENfSEVENTEENfSIXfSIXTEENfTENfTHIRTEENfTHIRTYfTHIRTY-ONEfTHREEfTWELVEfTWENTYfTWENTY-EIGHT",
   "gFIVEgFOURgNINEgONEgSEVENgSIXgTHREEgTWOfTWOeDECEMBEReFEBRUARYeHOUR EIGHTfEIGHTEENfELEVEN",
   "fFIFTEENfFIVEfFOURfFOURTEENfNINEfNINETEENfONEfSEVENfSEVENTEENfSIXfSIXTEENfTENfTHIRTEENfTHREE",
   "fTWELVEfTWENTYfTWENTY-FOURgONEgTHREEgTWOfTWOfZEROeJANUARYeJULYeJUNEeMARCHeMAYeNOVEMBEReOCTOBER",
   "eSEPTEMBERbVARIATION INDICATORaIMAGE OFbOF OR APPROXIMATELY EQUAL TOaIMP",
   "aIMPERIAL ARAMAIC LETTER ALEPHdAYINdBETHdDALETHdGIMELdHEdHETHdKAPHdLAMEDHdMEMdNUNdPEdQOPHdRESH",
   "dSADHEdSAMEKHdSHINdTAWdTETHdWAWdYODHdZAYINcNUMBER ONEdONE HUNDREDeTHOUSANDdTENdTEN THOUSAND",
   "dTHREEdTWENTYdTWOcSECTION SIGNaINBOX TRAYaINCOMING ENVELOPEaINCOMPLETE INFINITY",
   "aINCREASE FONT SIZE SYMBOLaINCREASES ASaINCREMENTaINDaINDEXaINDEX POINTING AT THE VIEWER",
   "aINDIAN RUPEE SIGNaINDIC SIYAQ ALTERNATE LAKH MARKcFRACTION ONE HALFeQUARTERdTHREE QUARTERS",
   "cLAKH MARKcNUMBER ALTERNATE ONEeTEN THOUSANDeTWOdEIGHTdEIGHT HUNDREDeTHOUSANDdEIGHTY",
   "dEIGHTY THOUSANDdFIFTYdFIFTY THOUSANDdFIVEdFIVE HUNDREDeTHOUSANDdFORTYdFORTY THOUSANDdFOUR",
   "dFOUR HUNDREDeTHOUSANDdKARORdKARORANdLAKHdLAKHANdNINEdNINE HUNDREDeTHOUSANDdNINETY",
   "dNINETY THOUSANDdONEdONE HUNDREDeTHOUSANDdPREFIXED EIGHTeFIVEeFOUReNINEeONEeSEVENeSIXeTHREEeTWO",
   "dSEVENdSEVEN HUNDREDeTHOUSANDdSEVENTYdSEVENTY THOUSANDdSIXdSIX HUNDREDeTHOUSANDdSIXTY",
   "dSIXTY THOUSANDdTENdTEN THOUSANDdTHIRTYdTHIRTY THOUSANDdTHREEdTHREE HUNDREDeTHOUSANDdTWENTY",
   "dTWENTY THOUSANDdTWOdTWO HUNDREDeTHOUSANDcPLACEHOLDERcRUPEE MARKaINFINITY",
   "aINFINITY NEGATED WITH VERTICAL BARaINFORMATION DESK PERSONbSEPARATOR FOURcONEcTHREEcTWObSOURCE",
   "aINHIBIT ARABIC FORM SHAPINGbSYMMETRIC SWAPPINGaINPUT SYMBOL FOR LATIN CAPITAL LETTERSeLETTERS",
   "eSMALL LETTERSdNUMBERSdSYMBOLSaINSCRIPTIONAL PAHLAVI LETTER ALEPHdBETHdDALETHdGIMELdHEdHETH",
   "dKAPHdLAMEDHdMEM-QOPHdNUNdPEdSADHEdSAMEKHdSHINdTAWdTETHdWAW-AYIN-RESHdYODHdZAYINcNUMBER FOUR",
   "dONEdONE HUNDREDeTHOUSANDdTENdTHREEdTWENTYdTWObPARTHIAN LETTER ALEPHdAYINdBETHdDALETHdGIMELdHE",
   "dHETHdKAPHdLAMEDHdMEMdNUNdPEdQOPHdRESHdSADHEdSAMEKHdSHINdTAWdTETHdWAWdYODHdZAYINcNUMBER FOUR",
   "dONEdONE HUNDREDeTHOUSANDdTENdTHREEdTWENTYdTWOaINSERTION SYMBOLaINTEGRAL",
   "aINTEGRAL AROUND A POINT OPERATORbAVERAGE WITH SLASHbEXTENSIONbWITH DOUBLE STROKEcINTERSECTION",
   "cLEFTWARDS ARROW WITH HOOKcOVERBARcTIMES SIGNcUNDERBARcUNIONaINTERCALATEaINTERIOR PRODUCT",
   "aINTERLINEAR ANNOTATION ANCHORcSEPARATORcTERMINATORaINTERLOCKED FEMALE AND MALE SIGN",
   "aINTERROBANGaINTERSECTIONaINTERSECTION ABOVE BAR ABOVE UNIONcUNION",
   "bBESIDE AND JOINED WITH INTERSECTIONbWITH DOTcLOGICAL ANDcOVERBARaINVERSE BULLETbCHECK MARK",
   "bCHECKER BOARD FILLbDOWNWARDS ARROW WITH TIP LEFTWARDSbMEDIUM SHADEbWHITE CIRCLE",
   "aINVERTED EXCLAMATION MARKbINTERROBANGbLAZY SbLOW KAVYKAcKAVYKA WITH KAVYKA ABOVEbOHM SIGN",
   "bPENTAGRAMbQUESTION MARKbUNDERTIEaINVISIBLE PLUSbSEPARATORbTIMESaIZAKAYA LANTERNaJACK-O-LANTERN",
   "aJAPANESE BANK SYMBOLbCASTLEbDOLLSbGOBLINbINDUSTRIAL STANDARD SYMBOLbOGREbPOST OFFICE",
   "bSYMBOL FOR BEGINNERaJARaJAVANESE CONSONANT SIGN CAKRAdKERETdPENGKALbDIGIT EIGHTcFIVEcFOURcNINE",
   "cONEcSEVENcSIXcTHREEcTWOcZERObLEFT RERENGGANbLETTER AcAIcBAcBA MURDAcCAcCA MURDAcDA",
   "cDA MAHAPRANAcDDAcDDA MAHAPRANAcEcGAcGA MURDAcHAcIcI KAWIcIIcJAcJA MAHAPRANAcKAcKA MURDAdSASAK",
   "cLAcMAcNAcNA MURDAcNGAcNGA LELETdLELET RASWADIcNYAcNYA MURDAcOcPAcPA CEREKdMURDAcRAcRA AGUNGcSA",
   "cSA MAHAPRANAdMURDAcTAcTA MURDAcTTAcTTA MAHAPRANAcUcWAcYAbPADA ADEGcADEG ADEGcANDAPcISEN-ISEN",
   "cLINGSAcLUHURcLUNGSIcMADYAcPANGKATcPISELEHcTIRTA TUMETEScWINDUbPANGKONbPANGRANGKEP",
   "bRIGHT RERENGGANbSIGN CECAKcCECAK TELUcLAYARcPANYANGGAcWIGNYANbTURNED PADA PISELEH",
   "bVOWEL SIGN DIRGA MUREdPEPETdSUKUdSUKU MENDUTdTALINGdTARUNGdTOLONGdWULUdWULU MELIKaJEANS",
   "aJIGSAW PUZZLE PIECEaJOINaJOYSTICKaJUGGLINGaJUNOaJUPITERaKAABAaKAITHI ABBREVIATION SIGNbDANDA",
   "bDOUBLE DANDAcSECTION MARKbENUMERATION SIGNbLETTER AcAAcAIcAUcBAcBHAcCAcCHAcDAcDDAcDDDHAcDDHA",
   "cDHAcEcGAcGHAcHAcIcIIcJAcJHAcKAcKHAcLAcMAcNAcNGAcNNAcNYAcOcPAcPHAcRAcRHAcSAcSHAcSSAcTAcTHAcTTA",
   "cTTHAcUcUUcVAcYAbNUMBER SIGNcSIGN ABOVEbSECTION MARKbSIGN ANUSVARAcCANDRABINDUcNUKTAcVIRAMA",
   "cVISARGAbVOWEL SIGN AAdAIdAUdEdIdIIdOdUdUUdVOCALIC RaKANGAROOaKANGXI RADICAL AGAINcANDcARRIVE",
   "cARROWcAXEcBADGERcBAMBOOcBEANcBIGcBIRDcBITTERcBLACKcBLOODcBLUEcBOATcBODYcBOLT OF CLOTHcBONEcBOW",
   "cBRANCHcBRISTLEcBRUSHcCARTcCAULDRONcCAVEcCHILDcCITYcCLANcCLAWcCLIFFcCLOTHEScCOLORcCOMPARE",
   "cCORPSEcCOVERcCOWcDEATHcDEERcDIPPERcDISHcDISTINGUISHcDIVINATIONcDO NOTcDOGcDOORcDOT",
   "cDOTTED CLIFFdTENTcDOUBLE XcDOWN BOXcDRAGONcDRUMcDRYcEARcEARTHcEATcEIGHTcEMBROIDERYcENCLOSURE",
   "cENTERcEVENcEVENINGcEYEcFACEcFANGcFATHERcFEATHERcFIELDcFIGHTcFIREcFISHcFLUTEcFLYcFOOTcFRAGRANT",
   "cFROGcFURcGATEcGHOSTcGOcGO SLOWLYcGOLDcGRAINcGRASScHAIRcHALBERDcHALF TREE TRUNKcHANDcHEADcHEART",
   "cHEMPcHIDING ENCLOSUREcHOOKcHORNcHORSEcICEcINCHcINSECTcJADEcJARcKNIFEcLACKcLAMEcLEAFcLEATHER",
   "cLEEKcLEGScLIDcLIFEcLINEcLONGcLONG STRIDEcMANcMEATcMELONcMILLETcMINISTERcMOONcMORNINGcMORTAR",
   "cMOUNDcMOUNTAINcMOUTHcNETcNOSEcNOTcOLDcONEcONESELFcOPEN BOXcOPPOSEcPIGcPLOWcPOWERcPRIVATE",
   "cPROFOUNDcRAINcRAPcRATcREDcRICEcRIGHT OPEN BOXcRIVERcROOFcRUNcSACRIFICIAL WINEcSALTcSAYcSCHOLAR",
   "cSCRIPTcSEALcSECONDcSEEcSELFcSHEEPcSHELLcSHOOTcSHORT TAILED BIRDdTHREADcSICKNESScSILKcSKIN",
   "cSLASHcSLAVEcSLICEcSMALLcSNOUTcSOUNDcSPEARcSPEECHcSPIRITcSPOONcSPROUTcSQUAREcSTANDcSTEAMcSTEP",
   "cSTONEcSTOPcSTOPPINGcSUNcSWEETcTABLEcTALLcTANNED LEATHERcTENcTIGERcTILEcTONGUEcTOOTHcTRACKcTREE",
   "cTRIPODcTURBANcTURTLEcTWOcTWO HANDScUSEcVALLEYcVILLAGEcWALKcWALK ENCLOSUREcWATERcWEAPONcWEST",
   "cWHEATcWHITEcWINDcWINEcWOMANcWORKcWRAPcWRONGcYELLOWaKANNADA AI LENGTH MARKbDIGIT EIGHTcFIVE",
   "cFOURcNINEcONEcSEVENcSIXcTHREEcTWOcZERObLENGTH MARKbLETTER AcAAcAIcAUcBAcBHAcCAcCHAcDAcDDAcDDHA",
   "cDHAcEcEEcFAcGAcGHAcHAcIcIIcJAcJHAcKAcKHAcLAcLLAcLLLAcMAcNAcNAKAARA POLLUcNGAcNNAcNYAcOcOOcPA",
   "cPHAcRAcRRAcSAcSHAcSSAcTAcTHAcTTAcTTHAcUcUUcVAcVOCALIC LdLLdRdRRcYAbSIGN ANUSVARAcAVAGRAHA",
   "cCANDRABINDUcJIHVAMULIYAcNUKTAcSIDDHAMcSPACING CANDRABINDUcUPADHMANIYAcVIRAMAcVISARGA",
   "bVOWEL SIGN AAdAIdAUdEdEEdIdIIdOdOOdUdUUdVOCALIC LeLLeReRRaKATAKANA DIGRAPH KOTObITERATION MARK",
   "bLETTER AcARCHAIC EdWUdYEdYIcBAcBEcBIcBOcBUcDAcDEcDIcDOcDUcEcGAcGEcGIcGOcGUcHAcHEcHIcHOcHUcIcKA",
   "cKEcKIcKOcKUcMAcMEcMIcMINNAN NASALIZED TONE-1f2f3f4f5f7f8dTONE-2e3e4e5e7e8cMOcMUcNcNAcNEcNIcNO",
   "cNUcOcPAcPEcPIcPOcPUcRAcREcRIcROcRUcSAcSEcSIcSMALL AdEdHAdHEdHIdHOdHUdIdKAdKEdKUdMUdNdNUdOdRA",
   "dREdRIdROdRUdSIdSUdTOdTUdUdWAdWEdWIdWOdYAdYOdYUcSOcSUcTAcTEcTIcTOcTUcUcVAcVEcVIcVOcVUcWAcWEcWI",
   "cWOcYAcYOcYUcZAcZEcZIcZOcZUbMIDDLE DOTbVOICED ITERATION MARKaKATAKANA-HIRAGANA DOUBLE HYPHEN",
   "cPROLONGED SOUND MARKcSEMI-VOICED SOUND MARKcVOICED SOUND MARKaKAYAH LI DIGIT EIGHTdFIVEdFOUR",
   "dNINEdONEdSEVENdSIXdTHREEdTWOdZEROcLETTER AdBAdCAdDAdGAdHAdHTAdIdKAdKHAdLAdMAdNAdNGAdNYAdOEdOO",
   "dPAdPHAdRAdSAdSHAdTAdTHAdVAdWAdYAdZAcSIGN CWIdSHYAcTONE CALYAdCALYA PLOPHUdPLOPHUcVOWEL EdEEdO",
   "dUdUEaKELVIN SIGNaKEYaKEYBOARDaKEYBOARD AND MOUSEaKEYCAP TENaKHAROSHTHI DIGIT FOURcONEcTHREE",
   "cTWObFRACTION ONE HALFbLETTER AcBAcBHAcCAcCHAcDAcDDAcDDHAcDHAcGAcGHAcHAcJAcKAcKHAcKKAcLAcMAcNA",
   "cNNAcNYAcPAcPHAcRAcSAcSHAcSSAcTAcTHAcTTAcTTHAcTTTAcTTTHAcVAcVHAcYAcZAbNUMBER ONE HUNDRED",
   "dTHOUSANDcTENcTWENTYbPUNCTUATION CIRCLEcCRESCENT BARcDANDAcDOTcDOUBLE DANDAcLINEScLOTUS",
   "cMANGALAMcSMALL CIRCLEbSIGN ANUSVARAcBAR ABOVEcCAUDAcDOT BELOWcDOUBLE RING BELOWcVISARGAbVIRAMA",
   "bVOWEL LENGTH MARKcSIGN EdIdOdUdVOCALIC RaKHITAN SMALL SCRIPT FILLERaKHMER CURRENCY SYMBOL RIEL",
   "bDIGIT EIGHTcFIVEcFOURcNINEcONEcSEVENcSIXcTHREEcTWOcZERObINDEPENDENT VOWEL LYdLYYdQAAdQAIdQAQ",
   "dQAUdQEdQIdQIIdQOO TYPE ONEfTWOdQUdQUKdQUUdQUUVdRYdRYYbLETTER BAcCAcCHAcCHOcCOcDAcDOcHAcKAcKHA",
   "cKHOcKOcLAcLOcMOcNGOcNNOcNOcNYOcPHAcPHOcPOcQAcROcSAcSHAcSSOcTAcTHAcTHOcTOcTTHAcTTHOcVOcYO",
   "bSIGN AHSDAcATTHACANcAVAKRAHASANYAcBANTOCcBARIYOOSANcBATHAMASATcBEYYALcCAMNUC PII KUUHcCOENG",
   "cKAKABATcKHANcKOOMUUTcLEK TOOcMUUSIKATOANcNIKAHITcPHNAEK MUANcREAHMUKcROBATcSAMYOK SANNYA",
   "cTOANDAKHIATcTRIISAPcVIRIAMcYUUKALEAPINTUbSYMBOL BEI KOETdROCcBUON KOETdROCcDAP KOETdROC",
   "cDAP-BEI KOETeROCdBUON KOETeROCdMUOY KOETeROCdPII KOETeROCdPRAM KOETeROCcLEK ATTAK BEIeBUON",
   "eMUOYePIIePRAMePRAM-BEIfBUONfMUOYfPIIeSONcMUOY KOETdROCcPATHAMASATcPII KOETdROCcPRAM KOETdROC",
   "cPRAM-BEI KOETeROCdBUON KOETeROCdMUOY KOETeROCdPII KOETeROCcTUTEYASATbVOWEL INHERENT AAdAQ",
   "cSIGN AAdAEdAIdAUdEdIdIEdIIdOEdOOdUdUAdUUdYdYAdYYaKHOJKI ABBREVIATION SIGNbDANDAbDOUBLE DANDA",
   "cSECTION MARKbLETTER AcAAcAIcAUcBAcBBAcBHAcCAcCHAcDAcDDAcDDDAcDDHAcDHAcEcGAcGGAcGHAcHAcIcJAcJJA",
   "cKAcKHAcLAcLLAcMAcNAcNGAcNNAcNYAcOcPAcPHAcRAcSAcTAcTHAcTTAcTTHAcUcVAcYAbSECTION MARK",
   "bSIGN ANUSVARAcNUKTAcSHADDAcSUKUNcVIRAMAbVOWEL SIGN AAdAIdAUdEdIdIIdOdUbWORD SEPARATOR",
   "aKHUDAWADI DIGIT EIGHTcFIVEcFOURcNINEcONEcSEVENcSIXcTHREEcTWOcZERObLETTER AcAAcAIcAUcBAcBBAcBHA",
   "cCAcCHAcDAcDDAcDDDAcDDHAcDHAcEcGAcGGAcGHAcHAcIcIIcJAcJHAcJJAcKAcKHAcLAcMAcNAcNGAcNNAcNYAcOcPA",
   "cPHAcRAcRRAcSAcSHAcTAcTHAcTTAcTTHAcUcUUcVAcYAbSIGN ANUSVARAcNUKTAcVIRAMAbVOWEL SIGN AAdAIdAUdE",
   "dIdIIdOdUdUUaKIMONOaKIP SIGNaKISSaKISS MARKaKISSING CAT FACE WITH CLOSED EYESbFACE",
   "bFACE WITH CLOSED EYESdSMILING EYESaKITEaKIWIFRUITaKNEELING PERSONaKNOTaKOALA",
   "aKOREAN STANDARD SYMBOLaKRONOSaL B BAR SYMBOLaLAB COATaLABELaLACROSSE STICK AND BALLaLADDER",
   "aLADY BEETLEaLANGUAGE TAGaLAO CANCELLATION MARKbDIGIT EIGHTcFIVEcFOURcNINEcONEcSEVENcSIXcTHREE",
   "cTWOcZERObELLIPSISbHO MOcNObKO LAbLETTER BOcCOcDOcFO FAYdFONdSUNGdTAMcHO SUNGdTAMcKHMU GOdNYO",
   "cKHO SUNGdTAMcKOcLOcLO LINGdLOOTcMOcNGOcNOcNYOcOcPALI BHAdCHAdDDAdDDHAdDHAdGHAdJHAdLLAdNNAdNYA",
   "dTTAdTTHAcPHO SUNGdTAMcPOcROcSANSKRIT SHAdSSAcSO SUNGdTAMcTHO SUNGdTAMcTOcWOcYObNIGGAHITA",
   "bSEMIVOWEL SIGN LOdNYObSIGN PALI VIRAMAbTONE MAI CATAWAdEKdTHOdTIbVOWEL SIGN AdAAdAIdAMdAYdEdEI",
   "dIdIIdMAI KANeKONdOdUdUUdYdYYaLARGE BLUE CIRCLEcDIAMONDcSQUAREbBROWN CIRCLEcSQUAREbCIRCLE",
   "bDOWN TACKbGREEN CIRCLEcSQUAREbLEFT TRIANGLE OPERATORbONE DOT OVER TWO DOTS PUNCTUATION",
   "cRING OVER TWO RINGS PUNCTUATIONbORANGE CIRCLEcDIAMONDcSQUAREbPURPLE CIRCLEcSQUAREbRED CIRCLE",
   "cSQUAREbTRIPLE VERTICAL BAR OPERATORbTWO DOTS OVER ONE DOT PUNCTUATION",
   "cRINGS OVER ONE RING PUNCTUATIONbUP TACKbYELLOW CIRCLEcSQUAREaLARGER THANbTHAN OR EQUAL TO",
   "aLARI SIGNaLAST QUARTER MOONcMOON SYMBOLdWITH FACEaLATIN CAPITAL LETTER AdA WITH ACUTEfBREVE",
   "fBREVE AND ACUTEhDOT BELOWhGRAVEhHOOK ABOVEhTILDEfCARONfCIRCUMFLEXfCIRCUMFLEX AND ACUTE",
   "hDOT BELOWhGRAVEhHOOK ABOVEhTILDEfDIAERESISfDIAERESIS AND MACRONfDOT ABOVEgABOVE AND MACRON",
   "gBELOWfDOUBLE GRAVEfGRAVEfHOOK ABOVEfINVERTED BREVEfMACRONfOGONEKfRING ABOVEgABOVE AND ACUTE",
   "gBELOWfSTROKEfTILDEdAAdAEdAE WITH ACUTEfMACRONdAFRICAN DdALPHAdANGLICANA WdAOdAUdAV",
   "dAV WITH HORIZONTAL BARdAYdBdB WITH DOT ABOVEgBELOWfFLOURISHfHOOKfLINE BELOWfSTROKEfTOPBARdBETA",
   "dBROKEN LdCdC WITH ACUTEfBARfCARONfCEDILLAfCEDILLA AND ACUTEfCIRCUMFLEXfDOT ABOVEfHOOK",
   "fPALATAL HOOKfSTROKEdCHIdCLOSED INSULAR GdCONdCUATRILLOdCUATRILLO WITH COMMAdDdD WITH CARON",
   "fCEDILLAfCIRCUMFLEX BELOWfDOT ABOVEgBELOWfHOOKfLINE BELOWfSHORT STROKE OVERLAYfSMALL LETTER Z",
   "hZ WITH CARONfSTROKEfTOPBARdDZdDZ WITH CARONdEdE WITH ACUTEfBREVEfCARONfCEDILLA",
   "fCEDILLA AND BREVEfCIRCUMFLEXfCIRCUMFLEX AND ACUTEhDOT BELOWhGRAVEhHOOK ABOVEhTILDEgBELOW",
   "fDIAERESISfDOT ABOVEgBELOWfDOUBLE GRAVEfGRAVEfHOOK ABOVEfINVERTED BREVEfMACRONfMACRON AND ACUTE",
   "hGRAVEfOGONEKfSTROKEfTILDEfTILDE BELOWdEGYPTOLOGICAL AINeALEFdENGdESHdETdETHdEZHdEZH REVERSED",
   "eWITH CARONdFdF WITH DOT ABOVEfHOOKfSTROKEdGdG WITH ACUTEfBREVEfCARONfCEDILLAfCIRCUMFLEX",
   "fDOT ABOVEfHOOKfMACRONfOBLIQUE STROKEfSTROKEdGAMMAdGHAdGLOTTAL AeIeSTOPeUdHdH WITH BREVE BELOW",
   "fCARONfCEDILLAfCIRCUMFLEXfDESCENDERfDIAERESISfDOT ABOVEgBELOWfHOOKfSTROKEdHALF HdHENGdHWAIRdI",
   "dI WITH ACUTEfBREVEfCARONfCIRCUMFLEXfDIAERESISfDIAERESIS AND ACUTEfDOT ABOVEgBELOWfDOUBLE GRAVE",
   "fGRAVEfHOOK ABOVEfINVERTED BREVEfMACRONfOGONEKfSTROKEfTILDEfTILDE BELOWdINSULAR DeFeGeReSeT",
   "dIOTAdISdJdJ WITH CIRCUMFLEXfCROSSED-TAILfSTROKEdKdK WITH ACUTEfCARONfCEDILLAfDESCENDER",
   "fDIAGONAL STROKEfDOT BELOWfHOOKfLINE BELOWfOBLIQUE STROKEfSTROKEfSTROKE AND DIAGONAL STROKEdL",
   "dL WITH ACUTEfBARfBELTfCARONfCEDILLAfCIRCUMFLEX BELOWfDOT BELOWgBELOW AND MACRONfDOUBLE BAR",
   "fHIGH STROKEfLINE BELOWfMIDDLE DOTgTILDEfSMALL LETTER JfSTROKEdLJdMdM WITH ACUTEfDOT ABOVE",
   "gBELOWfHOOKdMIDDLE SCOTS SdMIDDLE-WELSH LLfVdNdN WITH ACUTEfCARONfCEDILLAfCIRCUMFLEX BELOW",
   "fDESCENDERfDOT ABOVEgBELOWfGRAVEfLEFT HOOKfLINE BELOWfLONG RIGHT LEGfOBLIQUE STROKE",
   "fSMALL LETTER JfTILDEdNJdOdO WITH ACUTEfBREVEfCARONfCIRCUMFLEXfCIRCUMFLEX AND ACUTEhDOT BELOW",
   "hGRAVEhHOOK ABOVEhTILDEfDIAERESISfDIAERESIS AND MACRONfDOT ABOVEgABOVE AND MACRONgBELOW",
   "fDOUBLE ACUTEgGRAVEfGRAVEfHOOK ABOVEfHORNfHORN AND ACUTEhDOT BELOWhGRAVEhHOOK ABOVEhTILDE",
   "fINVERTED BREVEfLONG STROKE OVERLAYfLOOPfMACRONfMACRON AND ACUTEhGRAVEfMIDDLE TILDEfOGONEK",
   "fOGONEK AND MACRONfSTROKEfSTROKE AND ACUTEfTILDEfTILDE AND ACUTEhDIAERESIShMACRONdOI",
   "dOLD POLISH OdOMEGAdOOdOPEN EeOdOUdPdP WITH ACUTEfDOT ABOVEfFLOURISHfHOOKfSQUIRREL TAILfSTROKE",
   "fSTROKE THROUGH DESCENDERdQdQ WITH DIAGONAL STROKEfSTROKE THROUGH DESCENDERdRdR ROTUNDA"]

def thirdPart : List String :=
  ["eWITH ACUTEfCARONfCEDILLAfDOT ABOVEgBELOWgBELOW AND MACRONfDOUBLE GRAVEfINVERTED BREVE",
   "fLINE BELOWfOBLIQUE STROKEfSTROKEfTAILdREVERSED C WITH DOTeEeHALF HeOPEN EdRUM ROTUNDAdS",
   "dS WITH ACUTEfACUTE AND DOT ABOVEfCARONfCARON AND DOT ABOVEfCEDILLAfCIRCUMFLEXfCOMMA BELOW",
   "fDOT ABOVEgBELOWgBELOW AND DOT ABOVEfHOOKfOBLIQUE STROKEfSHORT STROKE OVERLAYfSWASH TAIL",
   "dSALTILLOdSCHWAdSCRIPT GdSHARP SdSIGMOID SdSMALL CAPITAL IeQ WITH HOOK TAILdTdT WITH CARON",
   "fCEDILLAfCIRCUMFLEX BELOWfCOMMA BELOWfDIAGONAL STROKEfDOT ABOVEgBELOWfHOOKfLINE BELOW",
   "fRETROFLEX HOOKfSTROKEdTHORNdTHORN WITH STROKEfSTROKE THROUGH DESCENDERdTONE FIVEeSIXeTWO",
   "dTRESILLOdTURNED AeALPHAeHeINSULAR GeKeLeMeTeVdTZdUdU BAReWITH ACUTEfBREVEfCARONfCIRCUMFLEX",
   "fCIRCUMFLEX BELOWfDIAERESISfDIAERESIS AND ACUTEhCARONhGRAVEhMACRONgBELOWfDOT BELOWfDOUBLE ACUTE",
   "gGRAVEfGRAVEfHOOK ABOVEfHORNfHORN AND ACUTEhDOT BELOWhGRAVEhHOOK ABOVEhTILDEfINVERTED BREVE",
   "fMACRONfMACRON AND DIAERESISfOGONEKfRING ABOVEfSTROKEfTILDEfTILDE AND ACUTEgBELOWdUPSILONdV",
   "dV WITH DIAGONAL STROKEfDOT BELOWfHOOKfTILDEdVENDdVISIGOTHIC ZdVOLAPUK AEeOEeUEdVYdW",
   "dW WITH ACUTEfCIRCUMFLEXfDIAERESISfDOT ABOVEgBELOWfGRAVEfHOOKdWYNNdXdX WITH DIAERESISfDOT ABOVE",
   "dYdY WITH ACUTEfCIRCUMFLEXfDIAERESISfDOT ABOVEgBELOWfGRAVEfHOOKfHOOK ABOVEfLOOPfMACRONfSTROKE",
   "fTILDEdYOGHdZdZ WITH ACUTEfCARONfCIRCUMFLEXfDESCENDERfDOT ABOVEgBELOWfHOOKfLINE BELOW",
   "fPALATAL HOOKfSTROKEfSWASH TAILcLIGATURE IJdOEbCROSSbEPIGRAPHIC LETTER ARCHAIC MdI LONGA",
   "dINVERTED MdREVERSED FePdSIDEWAYS IbLETTER AINcALVEOLAR CLICKcBIDENTAL PERCUSSIVE",
   "cBILABIAL CLICKdPERCUSSIVEcDENTAL CLICKcGLOTTAL STOPdSTOP WITH STROKEcINVERTED GLOTTAL STOP",
   "eSTOP WITH CURLgSTROKEcLATERAL CLICKcPHARYNGEAL VOICED FRICATIVEcRETROFLEX CLICK",
   "dCLICK WITH RETROFLEX HOOKcREVERSED ESH LOOPdGLOTTAL STOP WITH STROKEcSINOLOGICAL DOT",
   "cSMALL CAPITAL AeAEeBeBARRED BeCeDeEeETHeEZHeFeGeG WITH HOOKeHeIeINVERTED ReJeKeLeL WITH BELT",
   "gSTROKEeMeNeOeOEeOPEN OeOUePeQeReR WITH RIGHT LEGeREVERSED NfReRUMeSeTeTURNED EfGfKfMfReUeVeWeY",
   "eZcSTRETCHED CdC WITH CURLcTWO WITH STROKEcVOICED LARYNGEAL SPIRANTcWYNNcYR",
   "bSMALL CAPITAL LETTER I WITH STROKEeU WITH STROKEcLETTER AdA REVERSED-SCHWAeWITH ACUTEfBREVE",
   "fBREVE AND ACUTEhDOT BELOWhGRAVEhHOOK ABOVEhTILDEfCARONfCIRCUMFLEXfCIRCUMFLEX AND ACUTE",
   "hDOT BELOWhGRAVEhHOOK ABOVEhTILDEfDIAERESISfDIAERESIS AND MACRONfDOT ABOVEgABOVE AND MACRON",
   "gBELOWfDOUBLE GRAVEfGRAVEfHOOK ABOVEfINVERTED BREVEfMACRONfOGONEKfRETROFLEX HOOK",
   "fRIGHT HALF RINGfRING ABOVEgABOVE AND ACUTEgBELOWfSTROKEfTILDEdAAdAEdAE WITH ACUTEfMACRONdALPHA",
   "dALPHA WITH RETROFLEX HOOKdANGLICANA WdAOdAUdAVdAV WITH HORIZONTAL BARdAYdBdB WITH DOT ABOVE",
   "gBELOWfFLOURISHfHOOKfLINE BELOWfMIDDLE TILDEfPALATAL HOOKfSTROKEfTOPBARdBARRED ALPHAeEeO",
   "dBASELINE ESHdBETAdBLACKLETTER EeOeO WITH STROKEdBOTTOM HALF OdBROKEN LdCdC WITH ACUTEfBAR",
   "fCARONfCEDILLAfCEDILLA AND ACUTEfCIRCUMFLEXfCURLfDOT ABOVEfHOOKfPALATAL HOOKfRETROFLEX HOOK",
   "fSTROKEdCHIdCHI WITH LOW LEFT SERIFgRIGHT RINGdCLOSED INSULAR GeOMEGAeOPEN EeREVERSED OPEN E",
   "dCONdCUATRILLOdCUATRILLO WITH COMMAdDdD WITH CARONfCEDILLAfCIRCUMFLEX BELOWfCURLfDOT ABOVE",
   "gBELOWfHOOKfHOOK AND TAILfLINE BELOWfMIDDLE TILDEfPALATAL HOOKfSHORT STROKE OVERLAYfSTROKEfTAIL",
   "fTOPBARdDB DIGRAPHdDELTAdDEZH DIGRAPHeDIGRAPH WITH PALATAL HOOKgRETROFLEX HOOKdDOTLESS IeJ",
   "eJ WITH STROKEgSTROKE AND HOOKdDOUBLE ReR WITH CROSSED-TAILeTHORNeWYNNdDUMdDZdDZ DIGRAPH",
   "eDIGRAPH WITH CURLgRETROFLEX HOOKeWITH CARONdEdE WITH ACUTEfBREVEfCARONfCEDILLA",
   "fCEDILLA AND BREVEfCIRCUMFLEXfCIRCUMFLEX AND ACUTEhDOT BELOWhGRAVEhHOOK ABOVEhTILDEgBELOW",
   "fDIAERESISfDOT ABOVEgBELOWfDOUBLE GRAVEfFLOURISHfGRAVEfHOOK ABOVEfINVERTED BREVEfMACRON",
   "fMACRON AND ACUTEhGRAVEfNOTCHfOGONEKfRETROFLEX HOOKfSTROKEfTILDEfTILDE BELOWdEGYPTOLOGICAL AIN",
   "eALEFdENGdENG WITH CROSSED-TAILfPALATAL HOOKdESHdESH WITH CURLfDOUBLE BARgBAR AND CURL",
   "fPALATAL HOOKfRETROFLEX HOOKdETdETHdEZHdEZH REVERSEDeWITH CARONfCURLfPALATAL HOOK",
   "fRETROFLEX HOOKfTAILdFdF WITH DOT ABOVEfHOOKfMIDDLE TILDEfPALATAL HOOKfSTROKEdFENG DIGRAPH",
   "eDIGRAPH WITH TRILLdGdG WITH ACUTEfBREVEfCARONfCEDILLAfCIRCUMFLEXfDOT ABOVEfHOOKfMACRON",
   "fOBLIQUE STROKEfPALATAL HOOKfSTROKEdGAMMAdGHAdGLOTTAL AeIeSTOPeUdHdH WITH BREVE BELOWfCARON",
   "fCEDILLAfCIRCUMFLEXfDESCENDERfDIAERESISfDOT ABOVEgBELOWfHOOKfLINE BELOWfPALATAL HOOKfSTROKE",
   "dHALF HdHENGdHENG WITH HOOKdHVdIdI WITH ACUTEfBREVEfCARONfCIRCUMFLEXfDIAERESIS",
   "fDIAERESIS AND ACUTEfDOT BELOWfDOUBLE GRAVEfGRAVEfHOOK ABOVEfINVERTED BREVEfMACRONfOGONEK",
   "fRETROFLEX HOOKfSTROKEfSTROKE AND RETROFLEX HOOKfTILDEfTILDE BELOWdINSULAR DeFeGeReSeT",
   "dINVERTED ALPHAeOEdIOTAdIOTA WITH STROKEdIOTIFIED EdISdJdJ WITH CARONfCIRCUMFLEXfCROSSED-TAIL",
   "fSTROKEdKdK WITH ACUTEfCARONfCEDILLAfDESCENDERfDIAGONAL STROKEfDOT BELOWfHOOKfLINE BELOW",
   "fOBLIQUE STROKEfPALATAL HOOKfSTROKEfSTROKE AND DIAGONAL STROKEdKRAdLdL WITH ACUTEfBARfBELT",
   "fBELT AND PALATAL HOOKfCARONfCEDILLAfCIRCUMFLEX BELOWfCURLfDOT BELOWgBELOW AND MACRON",
   "fDOUBLE BARgMIDDLE TILDEfFISHHOOKfHIGH STROKEfINVERTED LAZY SfLINE BELOWfMIDDLE DOTgRINGgTILDE",
   "fPALATAL HOOKfRETROFLEX HOOKgHOOK AND BELTfSTROKEdLAMBDA WITH STROKEdLENIS FdLEZH",
   "dLEZH WITH RETROFLEX HOOKdLJdLONG SeS WITH DIAGONAL STROKEgDOT ABOVEgHIGH STROKEdLS DIGRAPHdLUM",
   "dLZ DIGRAPHdMdM WITH ACUTEfCROSSED-TAILfDOT ABOVEgBELOWfHOOKfMIDDLE TILDEfPALATAL HOOK",
   "dMIDDLE SCOTS SdMIDDLE-WELSH LLfVdMUMdNdN PRECEDED BY APOSTROPHEeWITH ACUTEfCARONfCEDILLA",
   "fCIRCUMFLEX BELOWfCROSSED-TAILfCURLfDESCENDERfDOT ABOVEgBELOWfGRAVEfLEFT HOOKfLINE BELOW",
   "fLONG RIGHT LEGfMIDDLE TILDEfOBLIQUE STROKEfPALATAL HOOKfRETROFLEX HOOKfTILDEdNJdNUMdO",
   "dO WITH ACUTEfBREVEfCARONfCIRCUMFLEXfCIRCUMFLEX AND ACUTEhDOT BELOWhGRAVEhHOOK ABOVEhTILDE",
   "fDIAERESISfDIAERESIS AND MACRONfDOT ABOVEgABOVE AND MACRONgBELOWfDOUBLE ACUTEgGRAVEfGRAVE",
   "fHOOK ABOVEfHORNfHORN AND ACUTEhDOT BELOWhGRAVEhHOOK ABOVEhTILDEfINVERTED BREVE",
   "fLONG STROKE OVERLAYfLOOPfLOW RING INSIDEfMACRONfMACRON AND ACUTEhGRAVEfOGONEK",
   "fOGONEK AND MACRONfRETROFLEX HOOKfSTROKEfSTROKE AND ACUTEfTILDEfTILDE AND ACUTEhDIAERESIS",
   "hMACRONdOIdOLD POLISH OdOMEGAdOOdOPEN EeE WITH RETROFLEX HOOKeOeO WITH RETROFLEX HOOKgSTROKEeOE",
   "dOUdPdP WITH ACUTEfDOT ABOVEfFLOURISHfHOOKfMIDDLE TILDEfPALATAL HOOKfSQUIRREL TAILfSTROKE",
   "fSTROKE THROUGH DESCENDERdPHIdQdQ WITH DIAGONAL STROKEfHOOKfHOOK TAILfSTROKE THROUGH DESCENDER",
   "dQP DIGRAPHdRdR ROTUNDAeWITH ACUTEfCARONfCEDILLAfCROSSED-TAILfDOT ABOVEgBELOWgBELOW AND MACRON",
   "fDOUBLE GRAVEfFISHHOOKfFISHHOOK AND MIDDLE TILDEhPALATAL HOOKfINVERTED BREVEfLINE BELOW",
   "fLONG LEGfMIDDLE TILDEfOBLIQUE STROKEfPALATAL HOOKfSTROKEfTAILeWITHOUT HANDLEdRAMS HORN",
   "dREVERSED CeC WITH DOTeEeENGeHALF HeKeOPEN EfE WITH HOOKhRETROFLEX HOOKeR WITH FISHHOOK",
   "eSCRIPT GdRUMdRUM ROTUNDAdSdS WITH ACUTEfACUTE AND DOT ABOVEfCARONfCARON AND DOT ABOVEfCEDILLA",
   "fCIRCUMFLEXfCOMMA BELOWfCURLfDOT ABOVEgBELOWgBELOW AND DOT ABOVEfHOOKfMIDDLE TILDE",
   "fOBLIQUE STROKEfPALATAL HOOKfSHORT STROKE OVERLAYfSWASH TAILdSAKHA YATdSALTILLOdSCHWA",
   "dSCHWA WITH HOOKfRETROFLEX HOOKdSCRIPT GeG WITH CROSSED-TAILeReR WITH RINGdSHARP S",
   "dSIDEWAYS DIAERESIZED UeOeO WITH STROKEeOPEN OeTURNED MeUdSIGMOID SdSQUAT REVERSED ESH",
   "dSTIRRUP RdTdT WITH CARONfCEDILLAfCIRCUMFLEX BELOWfCOMMA BELOWfCURLfDIAERESISfDIAGONAL STROKE",
   "fDOT ABOVEgBELOWfHOOKfHOOK AND RETROFLEX HOOKfLINE BELOWfMIDDLE TILDEfPALATAL HOOK",
   "fRETROFLEX HOOKfSTROKEdTAILLESS PHIdTC DIGRAPH WITH CURLdTESH DIGRAPHeDIGRAPH WITH PALATAL HOOK",
   "gRETROFLEX HOOKdTH WITH STRIKETHROUGHdTHORNdTHORN WITH STROKEfSTROKE THROUGH DESCENDER",
   "dTONE FIVEeSIXeTWOdTOP HALF OdTRESILLOdTS DIGRAPHeDIGRAPH WITH RETROFLEX HOOKdTUMdTURNED AeAE",
   "eALPHAeDELTAeEeGeHeH WITH FISHHOOKgFISHHOOK AND TAILeIeINSULAR GeKeLeMeM WITH LONG LEGeO OPEN-O",
   "gO WITH STROKEeOEeOE WITH HORIZONTAL STROKEgSTROKEeOPEN EeReR WITH HOOKgLONG LEG",
   "hLEG AND RETROFLEX HOOKgMIDDLE TILDEgPALATAL HOOKgTAILeTeT WITH CURLeUIeVeWeYeY WITH BELTdTZdU",
   "dU BAReBAR WITH SHORT RIGHT LEGeWITH ACUTEfBREVEfCARONfCIRCUMFLEXfCIRCUMFLEX BELOWfDIAERESIS",
   "fDIAERESIS AND ACUTEhCARONhGRAVEhMACRONgBELOWfDOT BELOWfDOUBLE ACUTEgGRAVEfGRAVEfHOOK ABOVE",
   "fHORNfHORN AND ACUTEhDOT BELOWhGRAVEhHOOK ABOVEhTILDEfINVERTED BREVEfLEFT HOOKfMACRON",
   "fMACRON AND DIAERESISfOGONEKfRETROFLEX HOOKfRING ABOVEfSHORT RIGHT LEGfSTROKEfTILDE",
   "fTILDE AND ACUTEgBELOWdUEdUIdUMdUOdUPSILONdUPSILON WITH STROKEdVdV WITH CURLfDIAGONAL STROKE",
   "fDOT BELOWfHOOKfPALATAL HOOKfRIGHT HOOKfTILDEdVENDdVISIGOTHIC ZdVOLAPUK AEeOEeUEdVYdW",
   "dW WITH ACUTEfCIRCUMFLEXfDIAERESISfDOT ABOVEgBELOWfGRAVEfHOOKfRING ABOVEdXdX WITH DIAERESIS",
   "fDOT ABOVEfLONG LEFT LEGhLEG AND LOW RIGHT RINGiWITH SERIFfLOW RIGHT RINGfPALATAL HOOKdY",
   "dY WITH ACUTEfCIRCUMFLEXfDIAERESISfDOT ABOVEgBELOWfGRAVEfHOOKfHOOK ABOVEfLOOPfMACRONfRING ABOVE",
   "fSHORT RIGHT LEGfSTROKEfTILDEdYOGHdZdZ WITH ACUTEfCARONfCIRCUMFLEXfCURLfDESCENDERfDOT ABOVE",
   "gBELOWfHOOKfLINE BELOWfMIDDLE TILDEfPALATAL HOOKfRETROFLEX HOOKfSTROKEfSWASH TAILcLIGATURE FF",
   "dFFIdFFLdFIdFLdIJdLONG S TdOEdSTbSUBSCRIPT SMALL LETTER AeEeHeIeJeKeLeMeNeOePeReSeSCHWAeTeUeVeX",
   "aLEAF FLUTTERING IN WINDaLEAFY GREENaLEDGER",
   "aLEFT AND LOWER AND RIGHT TRIANGULAR THREE QUARTERS BLOCKdONE EIGHTH BLOCK",
   "cRIGHT DOUBLE TURNSTILEdTACKdTRIANGULAR HALF BLOCK",
   "cUPPER AND RIGHT TRIANGULAR THREE QUARTERS BLOCKdONE EIGHTH BLOCKbANGER BUBBLEbANGLE BRACKET",
   "cBRACKET WITH DOTbARC LESS-THAN BRACKETbARROW WITH CIRCLED PLUSdSMALL CIRCLE",
   "bBARB DOWN RIGHT BARB DOWN HARPOONfUP HARPOONcUP RIGHT BARB DOWN HARPOONfUP HARPOON",
   "bBLACK LENTICULAR BRACKETcTORTOISE SHELL BRACKETbCEILINGbCLOSED ENTRYbCORNER BRACKET",
   "bCURLY BRACKETcBRACKET LOWER HOOKdMIDDLE PIECEdUPPER HOOKbDOTTED SUBSTITUTION BRACKET",
   "bDOUBLE ANGLE BRACKETcPARENTHESIScQUOTATION MARKcWIGGLY FENCEbFISH TAILbFIVE EIGHTHS BLOCK",
   "bFLOORbHALF BLACK CIRCLEdSTARcBLOCKcCIRCLEcCIRCLE WITH DOTeFOUR DOTSeTHREE DOTSeTWO DOTScFOLDER",
   "cINVERSE MEDIUM SHADE AND RIGHT HALF BLOCKcMEDIUM SHADEcRUNNING MANbHAND TELEPHONE RECEIVER",
   "bLOW PARAPHRASE BRACKETbLUGGAGEbMULTIMAPbNORMAL FACTOR SEMIDIRECT PRODUCTbONE EIGHTH BLOCK",
   "cQUARTER BLOCKbOUTER JOINbPARENTHESISbPARENTHESIS EXTENSIONcLOWER HOOKcUPPER HOOK",
   "bRAISED OMISSION BRACKETbRIGHT ARROWcARROW THROUGH SMALL CIRCLEdWITH DOUBLE VERTICAL STROKE",
   "eSTROKEeVERTICAL STROKEcBLACK ARROWcDOUBLE ARROWdARROW WITH STROKEfVERTICAL STROKE",
   "cOPEN-HEADED ARROWcSANS-SERIF ARROWcTRIANGLE-HEADED ARROWcWAVE ARROWcWHITE ARROW",
   "bS-SHAPED BAG DELIMITERbSEMIDIRECT PRODUCTbSEVEN EIGHTHS BLOCKbSIDEWAYS U BRACKET",
   "bSINGLE QUOTATION MARKbSPEECH BUBBLEbSQUARE BRACKETcBRACKET EXTENSIONdLOWER CORNERdUPPER CORNER",
   "dWITH DOUBLE STROKEeQUILLeSTROKEeTICK IN BOTTOM CORNERgTOP CORNEReUNDERBARbSUBSTITUTION BRACKET",
   "bTACKbTHIRD WHITE RIGHT POINTING INDEXbTHOUGHT BUBBLEbTHREE EIGHTHS BLOCKcQUARTERS BLOCK",
   "bTORTOISE SHELL BRACKETbTRANSPOSITION BRACKETbTRIANGLE BESIDE VERTICAL BAR",
   "bTRIANGULAR ONE QUARTER BLOCKbVERTICAL BAR WITH QUILLcBOX LINEbWHITE CORNER BRACKET",
   "cCURLY BRACKETcLENTICULAR BRACKETcPARENTHESIScSQUARE BRACKETcTORTOISE SHELL BRACKET",
   "bWIGGLY FENCEbWRITING HANDaLEFT-FACING ARMENIAN ETERNITY SIGNcFISTcSVASTI SIGNdSIGN WITH DOTS",
   "bHANDED INTERLACED PENTAGRAMbPOINTING ANGLE BRACKETcCURVED ANGLE BRACKET",
   "cDOUBLE ANGLE QUOTATION MARKcMAGNIFYING GLASSbSHADED WHITE RIGHTWARDS ARROW",
   "bSIDE ARC ANTICLOCKWISE ARROWbTO-RIGHT EMBEDDINGdISOLATEdMARKdOVERRIDEaLEFTWARDS ARROW",
   "bARROW ABOVE ALMOST EQUAL TOdREVERSE ALMOST EQUAL TOeTILDE OPERATORdSHORT RIGHTWARDS ARROW",
   "dTILDE OPERATORcAND UPPER AND LOWER ONE EIGHTH BLOCKcFROM BARdBAR TO BLACK DIAMOND",
   "cOVER RIGHTWARDS ARROWcTHROUGH LESS-THANdSUBSETdXcTO BARdBAR OVER RIGHTWARDS ARROW TO BAR",
   "dBLACK DIAMONDcWITH DOTTED STEMdDOUBLE VERTICAL STROKEdEQUILATERAL ARROWHEADdHOOK",
   "dLARGE TRIANGLE ARROWHEADdLOOPdMEDIUM TRIANGLE ARROWHEADdNOTCHED TAILdPLUS BELOW",
   "dSMALL EQUILATERAL ARROWHEADeTRIANGLE ARROWHEADdSTROKEdTAILdTAIL WITH DOUBLE VERTICAL STROKE",
   "fVERTICAL STROKEdTIP DOWNWARDSeUPWARDSdVERTICAL STROKEbARROW-TAIL",
   "bBACK-TILTED SHADOWED WHITE ARROWbBLACK ARROWcCIRCLED WHITE ARROWbBOTTOM-SHADED WHITE ARROW",
   "bCOMPRESSED ARROWbDASHED ARROWbDOUBLE ARROWcARROW FROM BARdWITH STROKEeVERTICAL STROKE",
   "cARROW-TAILcDASH ARROWbFINGER-POST ARROWbFRONT-TILTED SHADOWED WHITE ARROWbHAND",
   "bHARPOON OVER RIGHTWARDS HARPOONcWITH BARB DOWN ABOVE RIGHTWARDS HARPOON WITH BARB DOWN",
   "fBELOW LONG DASHfFROM BARfTO BAReDOWNWARDSeUP ABOVE LEFTWARDS HARPOON WITH BARB DOWNgLONG DASH",
   "gRIGHTWARDS HARPOON WITH BARB UPfFROM BARfTO BAReUPWARDSbHEAVY ARROWcCOMPRESSED ARROW",
   "bLEFT-SHADED WHITE ARROWbOPEN-HEADED ARROWbPAIRED ARROWSbQUADRUPLE ARROW",
   "bRIGHT-SHADED WHITE ARROWbROCKETbSANS-SERIF ARROWbSQUARED ARROWbSQUIGGLE ARROW",
   "bTOP SHADED WHITE ARROWbTRIANGLE ARROWHEADbTRIANGLE-HEADED ARROW",
   "dARROW OVER RIGHTWARDS TRIANGLE-HEADED ARROWeTO BAReWITH BOLD SHAFTfDOUBLE HORIZONTAL STROKE",
   "gVERTICAL STROKEfHEAVY SHAFTfLONG TIP DOWNWARDShUPWARDSfMEDIUM SHAFTfNARROW SHAFT",
   "fVERY HEAVY SHAFTdDASHED ARROWdPAIRED ARROWSbTRIPLE ARROWcDASH ARROWbTWO HEADED ARROW",
   "bTWO-HEADED ARROW FROM BAReWITH DOUBLE VERTICAL STROKEfTAILfTAIL WITH DOUBLE VERTICAL STROKE",
   "hVERTICAL STROKEfTRIANGLE ARROWHEADSfVERTICAL STROKEdTRIPLE DASH ARROWbWAVE ARROWbWHITE ARROW",
   "cARROW WITHIN TRIANGLE ARROWHEADaLEGaLEMONaLEOaLEOPARDaLEPCHA CONSONANT SIGN KdKANGdLdMdN",
   "dNYIN-DOdPdRdTbDIGIT EIGHTcFIVEcFOURcNINEcONEcSEVENcSIXcTHREEcTWOcZERObLETTER AcBAcBLAcCAcCHA",
   "cDAcDDAcDZAcFAcFLAcGAcGLAcHAcHLAcJAcKAcKHAcKLAcLAcMAcMLAcNAcNGAcNYAcPAcPHAcPLAcRAcSAcSHAcTAcTHA",
   "cTSAcTSHAcTTAcTTHAcVAcWAcYAbPUNCTUATION CER-WAcNYET THYOOM TA-ROLcTA-ROLcTSHOOKcTSHOOK CER-WA",
   "bSIGN NUKTAcRANbSUBJOINED LETTER RAdYAbVOWEL SIGN AAdEdIdOdOOdUdUU",
   "aLESS-THAN ABOVE DOUBLE-LINE EQUAL ABOVE GREATER-THANdGREATER-THAN ABOVE DOUBLE-LINE EQUAL",
   "dLEFTWARDS ARROWdSIMILAR ABOVE GREATER-THANeOR EQUAL",
   "dSLANTED EQUAL ABOVE GREATER-THAN ABOVE SLANTED EQUALcAND NOT APPROXIMATE",
   "dSINGLE-LINE NOT EQUAL TOcBUT NOT EQUAL TOeEQUIVALENT TOcCLOSED BY CURVE",
   "eCURVE ABOVE SLANTED EQUALcEQUAL TO OR GREATER-THANcOR APPROXIMATEdEQUAL TOdEQUIVALENT TO",
   "dGREATER-THANdSLANTED EQUAL TOfTO WITH DOT ABOVEiABOVE RIGHTiINSIDEcOVER EQUAL TOcSIGN",
   "cWITH CIRCLE INSIDEdDOTdQUESTION MARK ABOVEaLEVEL SLIDERaLFaLIBRAaLIGATURE OPEN ET ORNAMENT",
   "aLIGHT CHECK MARKbEIGHT SPOKED ASTERISKbFIVE POINTED BLACK STARcSPOKED ASTERISK",
   "bFOUR POINTED BLACK CUSPeSTARbGREEK CROSSbLEFT TORTOISE SHELL BRACKET ORNAMENTbRAIL",
   "bRIGHT TORTOISE SHELL BRACKET ORNAMENTbSALTIREbSHADEbSIX SPOKED ASTERISK",
   "bTHREE POINTED BLACK STARbTWELVE POINTED BLACK STARbVERTICAL BARbWHITE SQUAREaLIGHTNING",
   "aLIGHTNING MOODbMOOD BUBBLEaLIMBU DIGIT EIGHTcFIVEcFOURcNINEcONEcSEVENcSIXcTHREEcTWOcZERO",
   "bEXCLAMATION MARKbLETTER BAcBHAcCAcCHAcDAcDHAcGAcGHAcGYANcHAcJAcJHAcKAcKHAcLAcMAcNAcNGAcPAcPHA",
   "cRAcSAcSHAcSSAcTAcTHAcTRAcWAcYAcYANbQUESTION MARKbSIGN KEMPHRENGcLOOcMUKPHRENGcSA-I",
   "bSMALL LETTER ANUSVARAdKAdLAdMAdNAdNGAdPAdRAdTAbSUBJOINED LETTER RAdWAdYAbVOWEL SIGN AdAIdAUdE",
   "dEEdIdOdOOdUbVOWEL-CARRIER LETTERaLIMITED LIABILITY SIGNaLINE FEED",
   "bINTEGRATION NOT INCLUDING THE POLEcWITH RECTANGULAR PATH AROUND POLE",
   "dSEMICIRCULAR PATH AROUND POLEbSEPARATORbTABULATIONbTABULATION SETaLINEAR A SIGN A028BdA100-102",
   "dA120BdA131CdA301dA302dA303dA304dA305dA306dA307dA308dA309AdA309BdA309CdA310dA311dA312dA313A",
   "dA313BdA313CdA314dA315dA316dA317dA318dA319dA320dA321dA322dA323dA324dA325dA326dA327dA328dA329",
   "dA330dA331dA332dA333dA334dA335dA336dA337dA338dA339dA340dA341dA342dA343dA344dA345dA346dA347dA348",
   "dA349dA350dA351dA352dA353dA354dA355dA356dA357dA358dA359dA360dA361dA362dA363dA364dA365dA366dA367",
   "dA368dA369dA370dA371dA400-VASdA401-VASdA402-VASdA403-VASdA404-VASdA405-VASdA406-VASdA407-VAS",
   "dA408-VASdA409-VASdA410-VASdA411-VASdA412-VASdA413-VASdA414-VASdA415-VASdA416-VASdA417-VAS",
   "dA418-VASdA501dA502dA503dA504dA505dA506dA508dA509dA510dA511dA512dA513dA515dA516dA520dA521dA523",
   "dA524dA525dA526dA527dA528dA529dA530dA531dA532dA534dA535dA536dA537dA538dA539dA540dA541dA542dA545",
   "dA547dA548dA549dA550dA551dA552dA553dA554dA555dA556dA557dA559dA563dA564dA565dA566dA568dA569dA570",
   "dA571dA572dA573dA574dA575dA576dA577dA578dA579dA580dA581dA582dA583dA584dA585dA586dA587dA588dA589",
   "dA591dA592dA594dA595dA596dA598dA600dA601dA602dA603dA604dA606dA608dA609dA610dA611dA612dA613dA614",
   "dA615dA616dA617dA618dA619dA620dA621dA622dA623dA624dA626dA627dA628dA629dA634dA637dA638dA640dA642",
   "dA643dA644dA645dA646dA648dA649dA651dA652dA653dA654dA655dA656dA657dA658dA659dA660dA661dA662dA663",
   "dA664dA701 AdA702 BdA703 DdA704 EdA705 FdA706 HdA707 JdA708 KdA709 LdA709-2 L2e3 L3e4 L4e6 L6",
   "dA710 WdA711 XdA712 YdA713 OMEGAdA714 ABBdA715 BBdA717 DDdA726 EYYYdA732 JEdA800dA801dA802dA803",
   "dA804dA805dA806dA807dAB001dAB002dAB003dAB004dAB005dAB006dAB007dAB008dAB009dAB010dAB011dAB013",
   "dAB016dAB017dAB020dAB021dAB021FdAB021MdAB022dAB022FdAB022MdAB023dAB023MdAB024dAB026dAB027dAB028",
   "dAB029dAB030dAB031dAB034dAB037dAB038dAB039dAB040dAB041dAB044dAB045dAB046dAB047dAB048dAB049",
   "dAB050dAB051dAB053dAB054dAB055dAB056dAB057dAB058dAB059dAB060dAB061dAB065dAB066dAB067dAB069",
   "dAB070dAB073dAB074dAB076dAB077dAB078dAB079dAB080dAB081dAB082dAB085dAB086dAB087dAB118dAB120",
   "dAB122dAB123dAB131AdAB131BdAB164dAB171dAB180dAB188dAB191bB IDEOGRAM B100 MANdB102 WOMAN",
   "dB104 DEERdB105 EQUIDdB105F MAREdB105M STALLIONdB106F EWEdB106M RAMdB107F SHE-GOAT",
   "dB107M HE-GOATdB108F SOWdB108M BOARdB109F COWdB109M BULLdB120 WHEATdB121 BARLEYdB122 OLIVE",
   "dB123 SPICEdB125 CYPERUSdB130 OILdB131 WINEdB132dB140 BRONZEdB141 GOLDdB142dB145 WOOLdB146dB150",
   "dB151 HORNdB152dB153dB154dB157dB158dB159 CLOTHdB160dB161dB162 GARMENTdB163 ARMOURdB164dB165",
   "dB166dB167dB168dB169dB170dB171dB172dB173 MONTHdB174dB176 TREEdB177dB178dB179dB180dB181dB182",
   "dB183dB184dB185dB189dB190dB191 HELMETdB220 FOOTSTOOLdB225 BATHTUBdB230 SPEARdB231 ARROWdB232",
   "dB233 SWORDdB234dB236dB240 WHEELED CHARIOTdB241 CHARIOTdB242 CHARIOT FRAMEdB243 WHEELdB245dB246",
   "dB248dB249dB251dB252dB253dB254 DARTdB255dB256dB257dB258dB259dVESSEL B155eB200eB201eB202eB203",
   "eB204eB205eB206eB207eB208eB209eB210eB211eB212eB213eB214eB215eB216eB217eB218eB219eB221eB222eB226",
   "eB227eB228eB229eB250eB305cMONOGRAM B127 KAPOdB128 KANAKOdB133 AREPAdB135 MERIdB156 TURO2",
   "dB247 DIPTEcSYLLABLE B001 DAdB002 ROdB003 PAdB004 TEdB005 TOdB006 NAdB007 DIdB008 AdB009 SE",
   "dB010 UdB011 POdB012 SOdB013 MEdB014 DOdB015 MOdB016 QAdB017 ZAdB020 ZOdB021 QIdB023 MUdB024 NE",
   "dB025 A2dB026 RUdB027 REdB028 IdB029 PU2dB030 NIdB031 SAdB032 QOdB033 RA3dB036 JOdB037 TI",
   "dB038 EdB039 PIdB040 WIdB041 SIdB042 WOdB043 A3dB044 KEdB045 DEdB046 JEdB048 NWAdB050 PU",
   "dB051 DUdB052 NOdB053 RIdB054 WAdB055 NUdB057 JAdB058 SUdB059 TAdB060 RAdB061 OdB062 PTE",
   "dB065 JUdB066 TA2dB067 KIdB068 RO2dB069 TUdB070 KOdB071 DWEdB072 PEdB073 MIdB074 ZEdB075 WE",
   "dB076 RA2dB077 KAdB078 QEdB080 MAdB081 KUdB085 AUdB087 TWEdB090 DWOdB091 TWOcSYMBOL B018dB019",
   "dB022dB034dB047dB049dB056dB063dB064dB079dB082dB083dB086dB089aLINK SYMBOLaLINKED PAPERCLIPS",
   "aLION FACEaLIPSaLIPSTICKaLIRA SIGNaLISU LETTER AcAEcBAcCAcCHAcDAcDZAcEcEUcFAcGAcGHAcHAcHHAcIcJA",
   "cKAcKHAcLAcMAcNAcNGAcOcOEcPAcPHAcSAcSHAcTAcTHAcTONE MYA BOeCYAeJEUeNAeTIdNA POcTSAcTSHAcUcUEcUH",
   "cWAcXAcYAcYHAcZAcZHAbPUNCTUATION COMMAcFULL STOPaLIVRE TOURNOIS SIGNaLIZARDaLLAMAaLOBSTERaLOCK",
   "aLOCK WITH INK PENaLOCKING-SHIFT ONEcZEROaLOGICAL ANDbAND WITH DOT ABOVEdDOUBLE OVERBAR",
   "eUNDERBARdHORIZONTAL DASHdMIDDLE STEMdUNDERBARbORbOR OVERLAPPING LOGICAL ANDcWITH DOT ABOVE",
   "dDOUBLE OVERBAReUNDERBARdHORIZONTAL DASHdMIDDLE STEMaLOLLIPOP",
   "aLONG DASH FROM LEFT MEMBER OF DOUBLE VERTICALbDIVISIONbDRUMbLEFT RIGHT ARROWdDOUBLE ARROWcTACK",
   "bLEFTWARDS ARROWcARROW FROM BARcDOUBLE ARROWdARROW FROM BARcSQUIGGLE ARROWbRIGHT TACK",
   "bRIGHTWARDS ARROWcARROW FROM BARcDOUBLE ARROWdARROW FROM BARcSQUIGGLE ARROWaLOTION BOTTLEaLOTUS",
   "aLOUDLY CRYING FACEaLOVE HOTELbLETTERaLOW ASTERISKbBATTERYbBRIGHTNESS SYMBOL",
   "bDOUBLE PRIME QUOTATION MARKbKAVYKAbKAVYKA WITH DOTbLINEaLOWER BLADE SCISSORS",
   "bFIVE EIGHTHS BLOCKbHALF BLOCKcCIRCLEcINVERSE WHITE CIRCLEcMEDIUM SHADEbLEFT BALLPOINT PEN",
   "cBLOCK DIAGONAL LOWER MIDDLE LEFT TO LOWER CENTREjRIGHTeUPPER CENTRE TO LOWER MIDDLE RIGHT",
   "iRIGHThUPPER MIDDLE RIGHTfLEFT TO LOWER CENTREiMIDDLE RIGHThUPPER MIDDLE RIGHT",
   "fMIDDLE LEFT TO LOWER CENTREjMIDDLE RIGHTjRIGHTcCRAYONcFOUNTAIN PENcPAINTBRUSHcPENCIL",
   "cQUADRANT CIRCULAR ARCcSEMICIRCULAR ANTICLOCKWISE ARROWcTRIANGLEcTRIANGULAR MEDIUM SHADE",
   "bONE EIGHTH BLOCKcQUARTER BLOCKbRIGHT BLOCK DIAGONAL LOWER CENTRE TO LOWER MIDDLE RIGHT",
   "hUPPER MIDDLE RIGHTiRIGHTfLEFT TO LOWER MIDDLE RIGHThUPPER CENTREiMIDDLE RIGHT",
   "fMIDDLE LEFT TO UPPER CENTREjMIDDLE RIGHTjRIGHTeUPPER MIDDLE LEFT TO UPPER CENTREjRIGHT",
   "cCORNER WITH DOTcDROP-SHADOWED WHITE SQUAREcPENCILcQUADRANT CIRCULAR ARC",
   "cSEMICIRCULAR CLOCKWISE ARROWcSHADOWED WHITE CIRCLEeSQUAREcTRIANGLEcTRIANGULAR MEDIUM SHADE",
   "bSEVEN EIGHTHS BLOCKbTHREE EIGHTHS BLOCKcQUARTERS BLOCKbTRIANGULAR ONE QUARTER BLOCKaLOZENGE",
   "aLOZENGE DIVIDED BY HORIZONTAL RULEaLREaLRIaLRMaLROaLUGGAGEaLUNGSaLYCIAN LETTER AcANcBcBHcDcE",
   "cENcGcHcIcJcKcKKcLcMcMMcNcNNcPcQcRcScTcTHcTTcUcWcXcZaLYDIAN LETTER AcANcBcCcDcEcENcFcGcIcKcLcLY",
   "cMcNcNNcOcQcRcScSScTcTTcUcVcYbTRIANGULAR MARKaLYING FACEaMACRONaMAGEaMAGIC WANDaMAGNET",
   "aMAHAJANI ABBREVIATION SIGNbLETTER AcBAcBHAcCAcCHAcDAcDDAcDDHAcDHAcEcGAcGHAcHAcIcJAcJHAcKAcKHA",
   "cLAcMAcNAcNNAcNYAcOcPAcPHAcRAcRRAcSAcTAcTHAcTTAcTTHAcUcVAbLIGATURE SHRIbSECTION MARKbSIGN NUKTA",
   "aMAHJONG TILE AUTUMNcBACKcBAMBOOcCHRYSANTHEMUMcEAST WINDcEIGHT OF BAMBOOSeCHARACTERSeCIRCLES",
   "cFIVE OF BAMBOOSeCHARACTERSeCIRCLEScFOUR OF BAMBOOSeCHARACTERSeCIRCLEScGREEN DRAGONcJOKER",
   "cNINE OF BAMBOOSeCHARACTERSeCIRCLEScNORTH WINDcONE OF BAMBOOSeCHARACTERSeCIRCLEScORCHIDcPLUM",
   "cRED DRAGONcSEVEN OF BAMBOOSeCHARACTERSeCIRCLEScSIX OF BAMBOOSeCHARACTERSeCIRCLEScSOUTH WIND",
   "cSPRINGcSUMMERcTHREE OF BAMBOOSeCHARACTERSeCIRCLEScTWO OF BAMBOOSeCHARACTERSeCIRCLEScWEST WIND",
   "cWHITE DRAGONcWINTERaMAKASAR ANGKAbEND OF SECTIONbLETTER AcBAcCAcDAcGAcJAcKAcLAcMAcNAcNGAcNYA",
   "cPAcRAcSAcTAcVAcYAbPASSIMBANGbVOWEL SIGN EdIdOdUaMALAYALAM AU LENGTH MARKbDATE MARKbDIGIT EIGHT",
   "cFIVEcFOURcNINEcONEcSEVENcSIXcTHREEcTWOcZERObFRACTION ONE EIGHTHdFIFTHdFORTIETHdHALF",
   "dONE-HUNDRED-AND-SIXTIETHdQUARTERdSIXTEENTHdTENTHdTWENTIETHcTHREE EIGHTIETHSdQUARTERS",
   "dSIXTEENTHSdTWENTIETHSbLETTER AcAAcAIcARCHAIC IIcAUcBAcBHAcCAcCHAcCHILLU KdLdLLdLLLdMdNdNNdRRdY",
   "cDAcDDAcDDHAcDHAcDOT REPHcEcEEcGAcGHAcHAcIcIIcJAcJHAcKAcKHAcLAcLLAcLLLAcMAcNAcNGAcNNAcNNNAcNYA",
   "cOcOOcPAcPHAcRAcRRAcSAcSHAcSSAcTAcTHAcTTAcTTHAcTTTAcUcUUcVAcVEDIC ANUSVARAcVOCALIC LdLLdRdRRcYA",
   "bNUMBER ONE HUNDREDdTHOUSANDcTENbSIGN ANUSVARAcAVAGRAHAcCANDRABINDUcCIRCULAR VIRAMA",
   "cCOMBINING ANUSVARA ABOVEcPARAcVERTICAL BAR VIRAMAcVIRAMAcVISARGAbVOWEL SIGN AAdAIdAUdEdEEdIdII",
   "dOdOOdUdUUdVOCALIC LeLLeReRRaMALE AND FEMALE SIGNbSIGNbWITH STROKE AND MALE AND FEMALE SIGN",
   "dSIGNaMALTESE CROSSaMAMMOTHaMANaMAN AND WOMAN HOLDING HANDSbDANCINGbIN BUSINESS SUIT LEVITATING",
   "cTUXEDObWITH GUA PI MAOcTURBANaMANAT SIGNaMANDAIC AFFRICATION MARKbGEMINATION MARKbLETTER ABcAD",
   "cAGcAHcAINcAKcAKSAcALcAMcANcAPcAQcARcAScASHcASZcATcATTcAZcDUSHENNAcHALQAcINcITcKADcUSHENNA",
   "bPUNCTUATIONbVOCALIZATION MARKaMANGOaMANICHAEAN ABBREVIATION MARK ABOVEdBELOWbLETTER AAYIN",
   "cALEPHcAYINcBETHcBHETHcDALETHcDHAMEDHcFEcGHIMELcGIMELcHEcHETHcJAYINcJHAYINcKAPHcKHAPHcLAMEDH",
   "cMEMcNUNcPEcQHOPHcQOPHcRESHcSADHEcSAMEKHcSHINcSSHINcTAWcTETHcTHAMEDHcWAWcXAPHcXOPHcYODHcZAYIN",
   "cZHAYINbNUMBER FIVEcONEcONE HUNDREDcTENcTWENTYbPUNCTUATION DOTcDOT WITHIN DOT",
   "cDOUBLE DOT WITHIN DOTcFLEURONcLINE FILLERcSTARcTWO DOTSbSIGN UDaMANS SHOEaMANTELPIECE CLOCK",
   "aMANUAL WHEELCHAIRaMAP SYMBOL FOR LIGHTHOUSEaMAPLE LEAFaMARCHEN HEAD MARKbLETTER -AcAcBAcCAcCHA",
   "cDAcDZAcGAcHAcJAcKAcKHAcLAcMAcNAcNGAcNYAcPAcPHAcRAcSAcSHAcTAcTHAcTSAcTSHAcWAcYAcZAcZHA",
   "bMARK SHADbSIGN ANUSVARAcCANDRABINDUbSUBJOINED LETTER AdBAdCAdCHAdDAdDZAdGAdHAdJAdKAdKHAdLAdMA",
   "dNAdNGAdNYAdPAdPHAdRAdSAdSHAdTAdTHAdTSAdTSHAdWAdYAdZAdZHAbVOWEL SIGN AAdEdIdOdUaMARRIAGE SYMBOL",
   "aMARTIAL ARTS UNIFORMaMASARAM GONDI DIGIT EIGHTdFIVEdFOURdNINEdONEdSEVENdSIXdTHREEdTWOdZERO",
   "cLETTER AdAAdAIdAUdBAdBHAdCAdCHAdDAdDDAdDDHAdDHAdEdGAdGHAdHAdIdIIdJAdJHAdJNYAdKAdKHAdKSSAdLA",
   "dLLAdMAdNAdNGAdNNAdNYAdOdPAdPHAdRAdSAdSHAdSSAdTAdTHAdTRAdTTAdTTHAdUdUUdVAdYAcRA-KARAcREPHA",
   "cSIGN ANUSVARAdCANDRAdHALANTAdNUKTAdVISARGAcVIRAMAcVOWEL SIGN AAeAIeAUeEeIeIIeOeUeUUeVOCALIC R",
   "aMASCULINE ORDINAL INDICATORaMASK WORK SYMBOLaMASU MARKaMATE DRINKaMATHEMATICAL BOLD CAPITAL A",
   "dALPHAdBdBETAdCdCHIdDdDELTAdDIGAMMAdEdEPSILONdETAdFdGdGAMMAdHdIdIOTAdJdKdKAPPAdLdLAMDAdMdMUdN",
   "dNUdOdOMEGAdOMICRONdPdPHIdPIdPSIdQdRdRHOdSdSIGMAdTdTAUdTHETAdTHETA SYMBOLdUdUPSILONdVdWdXdXIdY",
   "dZdZETAcDIGIT EIGHTdFIVEdFOURdNINEdONEdSEVENdSIXdTHREEdTWOdZEROcEPSILON SYMBOL",
   "cFRAKTUR CAPITAL AeBeCeDeEeFeGeHeIeJeKeLeMeNeOePeQeReSeTeUeVeWeXeYeZdSMALL AeBeCeDeEeFeGeHeIeJ",
   "eKeLeMeNeOePeQeReSeTeUeVeWeXeYeZcITALIC CAPITAL AeALPHAeBeBETAeCeCHIeDeDELTAeEeEPSILONeETAeFeG",
   "eGAMMAeHeIeIOTAeJeKeKAPPAeLeLAMDAeMeMUeNeNUeOeOMEGAeOMICRONePePHIePIePSIeQeReRHOeSeSIGMAeTeTAU",
   "eTHETAeTHETA SYMBOLeUeUPSILONeVeWeXeXIeYeZeZETAdEPSILON SYMBOLdKAPPA SYMBOLdNABLA",
   "dPARTIAL DIFFERENTIALdPHI SYMBOLdPI SYMBOLdRHO SYMBOLdSMALL AeALPHAeBeBETAeCeCHIeDeDELTAeE",
   "eEPSILONeETAeFeFINAL SIGMAeGeGAMMAeHeIeIOTAeJeKeKAPPAeLeLAMDAeMeMUeNeNUeOeOMEGAeOMICRONePePHI",
   "ePIePSIeQeReRHOeSeSIGMAeTeTAUeTHETAeUeUPSILONeVeWeXeXIeYeZeZETAdTHETA SYMBOLcKAPPA SYMBOLcNABLA",
   "cPARTIAL DIFFERENTIALcPHI SYMBOLcPI SYMBOLcRHO SYMBOLcSCRIPT CAPITAL AeBeCeDeEeFeGeHeIeJeKeLeM",
   "eNeOePeQeReSeTeUeVeWeXeYeZdSMALL AeBeCeDeEeFeGeHeIeJeKeLeMeNeOePeQeReSeTeUeVeWeXeYeZcSMALL A",
   "dALPHAdBdBETAdCdCHIdDdDELTAdDIGAMMAdEdEPSILONdETAdFdFINAL SIGMAdGdGAMMAdHdIdIOTAdJdKdKAPPAdL",
   "dLAMDAdMdMUdNdNUdOdOMEGAdOMICRONdPdPHIdPIdPSIdQdRdRHOdSdSIGMAdTdTAUdTHETAdUdUPSILONdVdWdXdXIdY",
   "dZdZETAcTHETA SYMBOLbDOUBLE-STRUCK CAPITAL AeBeDeEeFeGeIeJeKeLeMeOeSeTeUeVeWeXeYdDIGIT EIGHT",
   "eFIVEeFOUReNINEeONEeSEVENeSIXeTHREEeTWOeZEROdSMALL AeBeCeDeEeFeGeHeIeJeKeLeMeNeOePeQeReSeTeUeV",
   "eWeXeYeZbFALLING DIAGONALbFRAKTUR CAPITAL AdBdDdEdFdGdJdKdLdMdNdOdPdQdSdTdUdVdWdXdYcSMALL AdBdC",
   "dDdEdFdGdHdIdJdKdLdMdNdOdPdQdRdSdTdUdVdWdXdYdZbITALIC CAPITAL AdALPHAdBdBETAdCdCHIdDdDELTAdE",
   "dEPSILONdETAdFdGdGAMMAdHdIdIOTAdJdKdKAPPAdLdLAMDAdMdMUdNdNUdOdOMEGAdOMICRONdPdPHIdPIdPSIdQdR",
   "dRHOdSdSIGMAdTdTAUdTHETAdTHETA SYMBOLdUdUPSILONdVdWdXdXIdYdZdZETAcEPSILON SYMBOLcKAPPA SYMBOL",
   "cNABLAcPARTIAL DIFFERENTIALcPHI SYMBOLcPI SYMBOLcRHO SYMBOLcSMALL AdALPHAdBdBETAdCdCHIdDdDELTA",
   "dDOTLESS IeJdEdEPSILONdETAdFdFINAL SIGMAdGdGAMMAdIdIOTAdJdKdKAPPAdLdLAMDAdMdMUdNdNUdOdOMEGA",
   "dOMICRONdPdPHIdPIdPSIdQdRdRHOdSdSIGMAdTdTAUdTHETAdUdUPSILONdVdWdXdXIdYdZdZETAcTHETA SYMBOL",
   "bLEFT ANGLE BRACKETcDOUBLE ANGLE BRACKETcFLATTENED PARENTHESIScWHITE SQUARE BRACKET",
   "dTORTOISE SHELL BRACKETbMONOSPACE CAPITAL AdBdCdDdEdFdGdHdIdJdKdLdMdNdOdPdQdRdSdTdUdVdWdXdYdZ",
   "cDIGIT EIGHTdFIVEdFOURdNINEdONEdSEVENdSIXdTHREEdTWOdZEROcSMALL AdBdCdDdEdFdGdHdIdJdKdLdMdNdOdP",
   "dQdRdSdTdUdVdWdXdYdZbRIGHT ANGLE BRACKETcDOUBLE ANGLE BRACKETcFLATTENED PARENTHESIS",
   "cWHITE SQUARE BRACKETdTORTOISE SHELL BRACKETbRISING DIAGONALbSANS-SERIF BOLD CAPITAL AfALPHAfB",
   "fBETAfCfCHIfDfDELTAfEfEPSILONfETAfFfGfGAMMAfHfIfIOTAfJfKfKAPPAfLfLAMDAfMfMUfNfNUfOfOMEGA",
   "fOMICRONfPfPHIfPIfPSIfQfRfRHOfSfSIGMAfTfTAUfTHETAfTHETA SYMBOLfUfUPSILONfVfWfXfXIfYfZfZETA",
   "eDIGIT EIGHTfFIVEfFOURfNINEfONEfSEVENfSIXfTHREEfTWOfZEROeEPSILON SYMBOLeITALIC CAPITAL AgALPHA",
   "gBgBETAgCgCHIgDgDELTAgEgEPSILONgETAgFgGgGAMMAgHgIgIOTAgJgKgKAPPAgLgLAMDAgMgMUgNgNUgOgOMEGA",
   "gOMICRONgPgPHIgPIgPSIgQgRgRHOgSgSIGMAgTgTAUgTHETAgTHETA SYMBOLgUgUPSILONgVgWgXgXIgYgZgZETA",
   "fEPSILON SYMBOLfKAPPA SYMBOLfNABLAfPARTIAL DIFFERENTIALfPHI SYMBOLfPI SYMBOLfRHO SYMBOLfSMALL A",
   "gALPHAgBgBETAgCgCHIgDgDELTAgEgEPSILONgETAgFgFINAL SIGMAgGgGAMMAgHgIgIOTAgJgKgKAPPAgLgLAMDAgMgMU",
   "gNgNUgOgOMEGAgOMICRONgPgPHIgPIgPSIgQgRgRHOgSgSIGMAgTgTAUgTHETAgUgUPSILONgVgWgXgXIgYgZgZETA",
   "fTHETA SYMBOLeKAPPA SYMBOLeNABLAePARTIAL DIFFERENTIALePHI SYMBOLePI SYMBOLeRHO SYMBOLeSMALL A",
   "fALPHAfBfBETAfCfCHIfDfDELTAfEfEPSILONfETAfFfFINAL SIGMAfGfGAMMAfHfIfIOTAfJfKfKAPPAfLfLAMDAfMfMU",
   "fNfNUfOfOMEGAfOMICRONfPfPHIfPIfPSIfQfRfRHOfSfSIGMAfTfTAUfTHETAfUfUPSILONfVfWfXfXIfYfZfZETA",
   "eTHETA SYMBOLdCAPITAL AeBeCeDeEeFeGeHeIeJeKeLeMeNeOePeQeReSeTeUeVeWeXeYeZdDIGIT EIGHTeFIVEeFOUR",
   "eNINEeONEeSEVENeSIXeTHREEeTWOeZEROdITALIC CAPITAL AfBfCfDfEfFfGfHfIfJfKfLfMfNfOfPfQfRfSfTfUfVfW",
   "fXfYfZeSMALL AfBfCfDfEfFfGfHfIfJfKfLfMfNfOfPfQfRfSfTfUfVfWfXfYfZdSMALL AeBeCeDeEeFeGeHeIeJeKeL",
   "eMeNeOePeQeReSeTeUeVeWeXeYeZbSCRIPT CAPITAL AdCdDdGdJdKdNdOdPdQdSdTdUdVdWdXdYdZcSMALL AdBdCdDdF",
   "dHdIdJdKdLdMdNdPdQdRdSdTdUdVdWdXdYdZaMAXIMIZEaMAYAN NUMERAL EIGHTcEIGHTEENcELEVENcFIFTEENcFIVE",
   "cFOURcFOURTEENcNINEcNINETEENcONEcSEVENcSEVENTEENcSIXcSIXTEENcTENcTHIRTEENcTHREEcTWELVEcTWOcZERO",
   "aMEASURED ANGLEbANGLE OPENING LEFTcWITH OPEN ARM ENDING IN ARROW POINTING DOWN AND LEFTlRIGHT",
   "jLEFT AND DOWNlUPjRIGHT AND DOWNlUPjUP AND LEFTlRIGHTbBYbRIGHT ANGLE WITH DOTaMEAT ON BONE",
   "aMECHANICAL ARMbLEGaMEDEFAIDRIN CAPITAL LETTER AdAIdATIUdBdCdDdEdFdGdHdHPdIdJdKdKPdLdMdNdNGdNY",
   "dOdOEdPdQdRdSdTdUdVdWdXdYdYUdZbCOMMAbDIGIT EIGHTcFIVEcFOURcNINEcONEcONE ALTERNATE FORMcSEVEN",
   "cSIXcTHREEcTHREE ALTERNATE FORMcTWOcTWO ALTERNATE FORMcZERObEXCLAMATION OHbFULL STOP",
   "bNUMBER EIGHTEENcELEVENcFIFTEENcFOURTEENcNINETEENcSEVENTEENcSIXTEENcTENcTHIRTEENcTWELVE",
   "bSMALL LETTER AdAIdATIUdBdCdDdEdFdGdHdHPdIdJdKdKPdLdMdNdNGdNYdOdOEdPdQdRdSdTdUdVdWdXdYdYUdZ",
   "bSYMBOL AIVAaMEDIEVAL COMMAbEXCLAMATION MARKbQUESTION MARKaMEDIUM BLACK CIRCLE",
   "bBOLD WHITE CIRCLEbEIGHT POINTED BLACK STARcSPOKED ASTERISKbFIVE SPOKED ASTERISK",
   "bFLATTENED LEFT PARENTHESIS ORNAMENTcRIGHT PARENTHESIS ORNAMENTbFOUR POINTED BLACK STAR",
   "dPINWHEEL STARbGREEK CROSSbLEFT CURLY BRACKET ORNAMENTcPARENTHESIS ORNAMENT",
   "bLEFT-POINTING ANGLE BRACKET ORNAMENTbMATHEMATICAL SPACEbRIGHT CURLY BRACKET ORNAMENT",
   "cPARENTHESIS ORNAMENTbRIGHT-POINTING ANGLE BRACKET ORNAMENTbSALTIREbSHADE",
   "bSIX POINTED BLACK STARcSPOKED ASTERISKbSMALL WHITE CIRCLEbTHREE POINTED BLACK STAR",
   "dPINWHEEL STARbVERTICAL BARbWHITE CIRCLEcSQUAREaMEETEI MAYEK AHANG KHUDAMcANJIcAPUN IYEK",
   "cCHEIKHANcCHEIKHEIcDIGIT EIGHTdFIVEdFOURdNINEdONEdSEVENdSIXdTHREEdTWOdZEROcLETTER ATIYAdBAdBHAM",
   "dCHAdCHILdDDAdDDHAdDHOUdDILdEdGHOUdGOKdHUKdIdI LONSUMdJHAMdJILdKHOUdKOKdKOK LONSUMdLAI",
   "dLAI LONSUMdMITdMIT LONSUMdNAdNA LONSUMdNGOUdNGOU LONSUMdNNAdNYAdOdPAdPA LONSUMdPHAMdRAIdSAM",
   "dSHAdSSAdTHOUdTILdTIL LONSUMdTTAdTTHAdUNdWAIdYANGcLUM IYEKcSYLLABLE REPETITION MARKcVIRAMA",
   "cVOWEL SIGN AAIeAAUeANAPeAUeCHEINAPeIIeINAPeNUNGeONAPeSOUNAPeUNAPeUUeVISARGAeYENAP",
   "cWORD REPETITION MARKaMELONaMELTING FACEaMEMOaMENDE KIKAKUI COMBINING NUMBER HUNDRED THOUSANDS",
   "eHUNDREDSeMILLIONSeTEENSeTEN THOUSANDSeTENSeTHOUSANDScDIGIT EIGHTdFIVEdFOURdNINEdONEdSEVENdSIX",
   "dTHREEdTWOcSYLLABLE M001 KIdM002 KAdM003 KUdM004 WIdM005 WAdM006 WUdM007 MINdM008 MANdM009 MUN",
   "dM010 BIdM011 BAdM012 BUdM013 IdM014 AdM015 UdM016 DIdM017 DAdM018 DUdM019 SIdM020 SAdM021 SU",
   "dM022 TIdM023 TAdM024 TUdM025 LIdM026 LAdM027 LUdM028 JIdM029 JAdM030 JUdM031 YIdM032 YA",
   "dM033 YUdM034 FIdM035 FAdM036 FUdM037 NINdM038 NANdM039 NUNdM040 HEEdM041 HAdM042 HOOdM043 NGGA",
   "dM044 KPEEdM045 WOdM046 HUANdM047 MBEEdM048 KOdM049 WVAdM050 PUdM051 PEdM052 HENdM053 HIN",
   "dM054 LOOdM055 TEdM056 GBAdM057 NGONdM058 NYANdM059 MENdM060 NYONdM061 WVIdM062 MBAdM063 JO",
   "dM064 NDOdM065 KEEdM066 POdM067 NDOOdM068 PIdM069 TOdM070 GBOdM071 GBOOdM072 MBEdM073 LE",
   "dM074 KPUdM075 FEdM076 KOOdM077 VOdM078 FEEdM079 SOdM080 YEdM081 PEEdM082 NGGUdM083 HEEI",
   "dM084 LEEdM085 VEdM086 LONG NGGEdM087 HUNdM088 FOdM089 DEEdM090 NGGIdM091 TEEdM092 KPA",
   "dM093 GBEEdM094 MONdM095 KEdM096 HEdM097 BEdM098 NYENdM099 PAdM100 EdM101 FANdM102 POOdM103 BOO",
   "dM104 TOOdM105 LONG MBOOdM106 LONG NGGOOdM107 GBEdM108 KPEdM109 YEEdM110 LONG LEdM111 GA",
   "dM112 KPOOdM113 JEdM114 WOOdM115 NGGEEdM116 SEdM117 NENdM118 WEdM119 NDEdM120 NGGOdM121 YO",
   "dM122 MBUdM123 NDIdM124 GBIdM125 NDUdM126 WEEdM127 NGGUAdM128 HOOUdM129 NDAdM130 HANdM131 IN",
   "dM132 KPIdM133 FOOdM134 NJOOdM135 INdM136 SOOdM137 EIdM138 BOdM139 WVEdM140 HOdM141 YOO",
   "dM142 LONG MBOdM143 WEIdM144 VOOdM145 MBIdM146 NGGEdM147 OdM148 GBUdM149 NJEEdM150 BEEdM151 VU",
   "dM152 NJAdM153 LOdM154 MUANdM155 GIdM156 NGGOOdM157 JEEdM158 KPOdM159 NGGAAdM160 JOO",
   "dM161 LONG MBEdM162 SEEdM163 EEdM164 NYINdM165 OOdM166 GUEIdM167 GUANdM168 GUdM169 NON",
   "dM170 NYUNdM171 RAdM172 MBOOdM173 VEEdM174 MBOdM175 LONG JOdM176 HIdM177 NGUANdM178 ENdM179 KUA",
   "dM180 DOOdM181 DOdM182 VIdM183 LONG NGGOdM184 NGENdM185 VAdM186 HUdM187 MBUUdM188 MBEE",
   "dM189 MUENdM190 GEEdM191 NDEEdM192 NJUdM193 HONdM194 WUIdM195 ANdM196 SIAdM197 FUA",
   "aMENORAH WITH NINE BRANCHESaMENS SYMBOLaMERCURYaMEROITIC CURSIVE FRACTION EIGHT TWELFTHS",
   "dELEVEN TWELFTHSdFIVE TWELFTHSdFOUR TWELFTHSdNINE TWELFTHSdONE HALFeTWELFTHdSEVEN TWELFTHS",
   "dSIX TWELFTHSdTEN TWELFTHSdTHREE TWELFTHSdTWO TWELFTHScLETTER AdARCHAIC SAdBAdDAdEdHHAdIdKAdKHA",
   "dLAdMAdNAdNEdOdPAdQAdRAdSAdSEdTAdTEdTOdWAdYAcLOGOGRAM IMNdRMTcNUMBER EIGHTdEIGHT HUNDRED",
   "eHUNDRED THOUSANDeTHOUSANDdEIGHTY THOUSANDdFIFTYdFIFTY THOUSANDdFIVEdFIVE HUNDRED",
   "eHUNDRED THOUSANDeTHOUSANDdFORTYdFORTY THOUSANDdFOURdFOUR HUNDREDeHUNDRED THOUSANDeTHOUSAND",
   "dNINEdNINE HUNDREDeHUNDRED THOUSANDeTHOUSANDdNINETY THOUSANDdONEdONE HUNDREDeHUNDRED THOUSAND",
   "eTHOUSANDdSEVENdSEVEN HUNDREDeHUNDRED THOUSANDeTHOUSANDdSEVENTYdSEVENTY THOUSANDdSIX",
   "dSIX HUNDREDeHUNDRED THOUSANDeTHOUSANDdSIXTYdSIXTY THOUSANDdTENdTEN THOUSANDdTHIRTY",
   "dTHIRTY THOUSANDdTHREEdTHREE HUNDREDeHUNDRED THOUSANDeTHOUSANDdTWENTYdTWENTY THOUSANDdTWO",
   "dTWO HUNDREDeHUNDRED THOUSANDeTHOUSANDbHIEROGLYPHIC LETTER AdBAdBA-2dDAdEdHHAdIdKAdKHAdLAdMAdNA",
   "dNA-2dNEdNE-2dOdPAdQAdRAdRA-2dSAdSA-2dSEdTAdTA-2dTEdTE-2dTOdWAdYAcSYMBOL VIDJdVIDJ-2aMERPERSON",
   "aMESSAGE WAITINGaMETRICAL BREVEbLONG OVER SHORTdTWO SHORTSbPENTASEMEbSHORT OVER LONGbTETRASEME",
   "bTRISEMEbTWO SHORTS JOINEDdOVER LONGaMETROaMIAO LETTER AHcARCHAIC MAdNAdNGAdZZAcBAcBRIcDAcDDA",
   "cDLHAcDLHYAcDZAcDZHAcDZYIcDZZAcFAcGAcGHAcGHHAcHAcHHAcKAcLAcLHAcLHYAcLYAcMAcMHAcNAcNASALIZATION",
   "cNGAcNGHAcNHAcNNAcNNHAcNYAcNYHAcPAcPLAcQAcQGAcREFORMED TONE-1e2e4e5e6e8dTSHAcRTEcSAcSHAcSSAcSYI",
   "cTAcTEcTLHAcTLHYAcTONE-2d3d4d5d6d7d8cTSAcTSEcTSHAcTSSAcTTAcVAcVFAcWAcXAcYI DZHAdKAdNNAdPAdTA",
   "dTSAdTSHAdTTAcZAcZHAcZSAcZSHAcZZAcZZSAcZZSYAcZZYAbSIGN ASPIRATIONcCONSONANT MODIFIER BAR",
   "cREFORMED ASPIRATIONdVOICINGbTONE ABOVEcBELOWcRIGHTcTOP RIGHTbVOWEL SIGN AdAAdAEdAEEdAHHdAIdAN",
   "dANGdAUdEdEAdEIdENdENGdERdERRdIdIAdIANdIANGdIEdIGdIIdINGdIOdIONGdIUdNdNGdOdOERdOEYdOGdOOdOU",
   "dROUNDED EReERRdUdUAdUANdUANGdUEIdUIdUNGdUOGdUUdVWdWdWOdYdYIdYUIaMICR DASH SYMBOLbON US SYMBOL",
   "aMICRO SIGNaMICROBEaMICROPHONEaMICROSCOPEaMIDDLE DOTbTHIRD WHITE RIGHT POINTING INDEX",
   "aMIDLINE HORIZONTAL ELLIPSISaMILITARY HELMETbMEDALaMILKY WAYaMILL SIGNaMINIBUSaMINIDISC",
   "aMINIMIZEaMINUS SIGNbSIGN IN TRIANGLEcWITH COMMA ABOVEdDOT BELOWdFALLING DOTSdRISING DOTSbTILDE",
   "aMINUS-OR-PLUS SIGNaMINYaMIRRORaMIRROR BALLaMMSPaMOBILE PHONEbPHONE OFF",
   "cWITH RIGHTWARDS ARROW AT LEFTaMODELSaMODERN PENTATHLONaMODI ABBREVIATION SIGNbDANDA",
   "bDIGIT EIGHTcFIVEcFOURcNINEcONEcSEVENcSIXcTHREEcTWOcZERObDOUBLE DANDAbLETTER AcAAcAIcAUcBAcBHA",
   "cCAcCHAcDAcDDAcDDHAcDHAcEcGAcGHAcHAcIcIIcJAcJHAcKAcKHAcLAcLLAcMAcNAcNGAcNNAcNYAcOcPAcPHAcRAcSA",
   "cSHAcSSAcTAcTHAcTTAcTTHAcUcUUcVAcVOCALIC LdLLdRdRRcYAbSIGN ANUSVARAcARDHACANDRAcHUVAcVIRAMA",
   "cVISARGAbVOWEL SIGN AAdAIdAUdEdIdIIdOdUdUUdVOCALIC LeLLeReRRaMODIFIER BREVE WITH INVERTED BREVE",
   "bLETTER ACUTE ACCENTcALVEOLAR CLICKcAPOSTROPHEcBEGIN HIGH TONEdLOW TONEcBILABIAL CLICK",
   "cCAPITAL AdAEdBdBARRED BdCdDdEdFdGdHdH WITH STROKEdIdJdKdLdMdNdOdOUdPdQdRdREVERSED EeNdTdUdVdW",
   "cCENTRED LEFT HALF RINGdRIGHT HALF RINGcCHINESE TONE YANG PINGfQUfRUfSHANGeYIN PINGfQUfRUfSHANG",
   "cCIRCUMFLEX ACCENTcCOLONcCROSS ACCENTcCYRILLIC ENdHARD SIGNdSOFT SIGNcDENTAL CLICK",
   "cDOT HORIZONTAL BARdSLASHdVERTICAL BARcDOUBLE APOSTROPHEdPRIMEcDOWN ARROWHEADdTACK",
   "cEND HIGH TONEdLOW TONEcEXTRA-HIGH DOTTED LEFT-STEM TONE BARfTONE BAReLEFT-STEM TONE BAR",
   "eTONE BARdLOW DOTTED LEFT-STEM TONE BARfTONE BAReLEFT-STEM TONE BAReTONE BARcGEORGIAN NAR",
   "cGLOTTAL STOPdSTOP WITH STROKEcGRAVE ACCENTcHALF TRIANGULAR COLON",
   "cHIGH DOTTED LEFT-STEM TONE BAReTONE BARdLEFT-STEM TONE BARdTONE BARcLATERAL CLICK",
   "cLEFT ARROWHEADdHALF RINGdTACKcLOW ACUTE ACCENTdCIRCUMFLEX ACCENTdDOTTED LEFT-STEM TONE BAR",
   "eTONE BARdDOWN ARROWHEADdGRAVE ACCENTdINVERTED EXCLAMATION MARKdLEFT ARROWeARROWHEAD",
   "dLEFT-STEM TONE BARdMACRONdRIGHT ARROWHEADdRINGdTILDEdTONE BARdUP ARROWHEADdVERTICAL LINE",
   "cLOWER RIGHT CORNER ANGLEcMACRONcMID DOTTED LEFT-STEM TONE BAReTONE BARdLEFT-STEM TONE BAR",
   "dTONE BARcMIDDLE DOUBLE ACUTE ACCENTeGRAVE ACCENTdGRAVE ACCENTcMINUS SIGNcOPEN SHELFcPLUS SIGN",
   "cPRIMEcRAISED COLONdDOWN ARROWdEXCLAMATION MARKdINVERTED EXCLAMATION MARKdUP ARROW",
   "cRETROFLEX CLICK WITH RETROFLEX HOOKcREVERSED COMMAdGLOTTAL STOPeSTOP WITH STROKEcRHOTIC HOOK",
   "cRIGHT ARROWHEADdHALF RINGdTACKcSHELFcSHORT EQUALS SIGNcSMALL AdAEdAINdALPHAdBdB WITH HOOK",
   "dBARRED OdBETAdBOTTOM HALF OdCdC WITH CURLdCAPITAL AAeBeGeG WITH HOOKeHeIeI WITH STROKE",
   "eINVERTED ReLeL WITH BELTeNeOEeReUeYdCHIdCLOSED OMEGAeREVERSED OPEN EdDdD WITH HOOK",
   "fHOOK AND TAILfTAILdDELTAdDEZH DIGRAPHdDOTLESS J WITH STROKEgSTROKE AND HOOKdDZ DIGRAPH",
   "eDIGRAPH WITH CURLgRETROFLEX HOOKdEdENGdESHdETHdEZHdFdFENG DIGRAPHdGdG WITH HOOKdGAMMA",
   "dGREEK GAMMAePHIdHdH WITH HOOKfSTROKEdHENGdHENG WITH HOOKdI WITH STROKEdIOTAdJ",
   "dJ WITH CROSSED-TAILdKdLdL WITH BELTfINVERTED LAZY SfMIDDLE TILDEfPALATAL HOOKfRETROFLEX HOOK",
   "gHOOK AND BELTdLEZHdLEZH WITH RETROFLEX HOOKdLIGATURE OEdLS DIGRAPHdLZ DIGRAPHdMdM WITH HOOK",
   "dN WITH LEFT HOOKfRETROFLEX HOOKdOdO WITH STROKEdOPEN EeOdPdPHIdQdRdR WITH FISHHOOKfTAIL",
   "dRAMS HORNdREVERSED EeGLOTTAL STOPeOPEN EdSdS WITH CURLfHOOKdSCHWAdSCRIPT GdSIDEWAYS UdT",
   "dT WITH PALATAL HOOKfRETROFLEX HOOKdTC DIGRAPH WITH CURLdTESH DIGRAPHdTHETAdTOP HALF O",
   "dTS DIGRAPHeDIGRAPH WITH RETROFLEX HOOKdTURNED AeAEeALPHAeHeIeMeM WITH LONG LEGeOPEN EeR",
   "eR WITH HOOKgLONG LEGhLEG AND RETROFLEX HOOKeVeWeYeY WITH BELTdUdU BAReWITH LEFT HOOKdUPSILONdV",
   "dV WITH HOOKfRIGHT HOOKdWdXdYdZdZ WITH CURLfRETROFLEX HOOKcSTRESS AND HIGH TONEeLOW TONE",
   "cSUPERSCRIPT HALF TRIANGULAR COLONdTRIANGULAR COLONcTRIANGULAR COLONcTURNED COMMAcUNASPIRATED",
   "cUP ARROWHEADdTACKcUScVERTICAL LINEcVOICINGcYANG DEPARTING TONE MARKcYIN DEPARTING TONE MARK",
   "aMODULO TWO SUMaMONEY BAGbWITH WINGSaMONEY-MOUTH FACEaMONGOLIAN BIRGA",
   "bBIRGA WITH DOUBLE ORNAMENTdORNAMENTbCOLONbCOMMAbDIGIT EIGHTcFIVEcFOURcNINEcONEcSEVENcSIXcTHREE",
   "cTWOcZERObDOUBLE BIRGA WITH ORNAMENTbELLIPSISbFOUR DOTSbFREE VARIATION SELECTOR FOUReONEeTHREE",
   "eTWObFULL STOPbINVERTED BIRGAcBIRGA WITH DOUBLE ORNAMENTbLETTER AcALI GALI AeAHeANUSVARA ONE",
   "eBALUDAeCAeDAeDAGALGAeDAMARUeDDAeHALF UfYAeIeINVERTED UBADAMAeKAeNGAeNNAePAePHAeSSAeTA",
   "eTHREE BALUDAeTTAeTTHAeUBADAMAeVISARGA ONEeZAeZHAcANGcBAcCHAcCHA WITH TWO DOTScCHIcDAcEcEEcFA",
   "cGAcHAAcIcJAcKAcKHAcLAcLHAcMAcMANCHU ALI GALI BHAfCAfCYAfDDHAfDHAfGHAfJHAfLHAfNGAfSSAfTAfTTAfZA",
   "fZHAdFAdIdKAdRAdZHAcNAcOcOEcPAcQAcRAcSAcSHAcSIBE ANGdCHAdDAdEdFAdGAdGAAdHAdHAAdIdIYdJAdKAdPA",
   "dRAAdSHAdTAdTSAdUdUEdZAdZHAcTAcTODO ALI GALI TAfZHAdANGdBAdCHAdDAdDZAdEdGAdGAAdHAAdIdJAdJIAdKA",
   "dLONG VOWEL SIGNdMAdNIAdOdOEdPAdQAdTAdTSAdUdUEdWAdYAcTSAcUcUEcWAcYAcZAcZHIcZRAbMANCHU COMMA",
   "cFULL STOPbNIRUGUbROTATED BIRGAcBIRGA WITH DOUBLE ORNAMENTeORNAMENT",
   "bSIBE SYLLABLE BOUNDARY MARKERbSWIRL BIRGAcBIRGA WITH DOUBLE ORNAMENTeORNAMENTbTODO SOFT HYPHEN",
   "bTRIPLE BIRGA WITH ORNAMENTbTURNED SWIRL BIRGA WITH DOUBLE ORNAMENTbVOWEL SEPARATORaMONKEY",
   "aMONKEY FACEaMONOGRAM FOR EARTHcYANGcYINaMONORAILaMONOSTABLE SYMBOLaMOOD BUBBLEaMOON CAKE",
   "bVIEWING CEREMONYaMOSQUEaMOSQUITOaMOTHER CHRISTMASaMOTOR BOATbSCOOTERaMOTORIZED WHEELCHAIR",
   "aMOTORWAYaMOUNT FUJIaMOUNTAINaMOUNTAIN BICYCLISTbCABLEWAYbRAILWAYaMOUSEaMOUSE FACEbTRAPaMOUTH",
   "aMOVIE CAMERAaMOYAIaMRO DANDAbDIGIT EIGHTcFIVEcFOURcNINEcONEcSEVENcSIXcTHREEcTWOcZERO",
   "bDOUBLE DANDAbLETTER AcBAcCHUcDAcDAIcEcEAcHAIcHAOcKEAAEcKHAIcKOcLAcLANcMAEMcMIMcNGIcNINcOcOLcOO",
   "cPAcPHIcRIcROcSHIcTAcTEKcTHEAcWAcYOaMUCH GREATER-THANbLESS-THANaMULTANI LETTER AcBAcBHAcCAcCHA",
   "cDAcDDAcDDDAcDDHAcDHAcEcGAcGHAcHAcIcJAcJJAcKAcKHAcLAcMAcNAcNNAcNYAcPAcPHAcRAcRHAcRRAcSAcTAcTHA",
   "cTTAcTTHAcUcVAcYAbSECTION MARKaMULTIMAPaMULTIPLE MUSICAL NOTESaMULTIPLICATION SIGN",
   "bSIGN IN DOUBLE CIRCLEdLEFT HALF CIRCLEdRIGHT HALF CIRCLEdTRIANGLEcWITH DOT ABOVEdUNDERBARbX",
   "aMULTISETaMULTISET MULTIPLICATIONbUNIONaMUSHROOMaMUSIC FLAT SIGNbNATURAL SIGNbSHARP SIGN",
   "aMUSICAL KEYBOARDbKEYBOARD WITH JACKSbNOTEbSCOREbSYMBOL ARPEGGIATO DOWNdUPcBEGIN BEAMdPHRASE",
   "dSLURdTIEcBRACEcBRACKETcBREATH MARKcBREVEcBREVIScBREVIS RESTcC CLEFcCAESURAcCIRCLE X NOTEHEAD",
   "cCLIMACUScCLIVIScCLUSTER NOTEHEAD BLACKeWHITEcCODAcCOMBINING ACCENTdACCENT-STACCATO",
   "dAUGMENTATION DOTdBENDdDOITdDOUBLE TONGUEdDOWN BOWdFLAG-1e2e3e4e5dFLIPdHARMONICdLOUREdMARCATO",
   "dMARCATO-STACCATOdRIPdSMEARdSNAP PIZZICATOdSPRECHGESANG STEMdSTACCATISSIMOdSTACCATOdSTEMdTENUTO",
   "dTREMOLO-1e2e3dTRIPLE TONGUEdUP BOWcCOMMON TIMEcCRESCENDOcCROIXcCUT TIMEcDA CAPOcDAL SEGNOcDAMP",
   "cDAMP ALLcDASHED BARLINEcDECRESCENDOcDEGREE SLASHcDOUBLE BARLINEdFLATdSHARPcDRUM CLEF-1e2",
   "cEIGHTH NOTEdRESTcEND BEAMdOF STIMMEdPHRASEdSLURdTIEcF CLEFdCLEF OTTAVA ALTAfBASSAcFERMATA",
   "cFERMATA BELOWcFINAL BARLINEcFINGERED TREMOLO-1e2e3cFIVE-LINE STAFFcFLAT DOWNdUPcFORTE",
   "cFOUR-LINE STAFFdSTRING FRETBOARDcFUSA BLACKdWHITEcG CLEFdCLEF OTTAVA ALTAfBASSAcGLISSANDO DOWN",
   "dUPcGRACE NOTE NO SLASHeSLASHcGREGORIAN C CLEFdF CLEFcHALF NOTEdPEDAL MARKdRESTcHAUPTSTIMME",
   "cINVERTED TURNcKIEVAN C CLEFdEIGHTH NOTE STEM DOWNgUPdEND OF PIECEdFINAL NOTEdFLAT SIGN",
   "dHALF NOTEdQUARTER NOTE STEM DOWNgUPdRECITATIVE MARKdWHOLE NOTEcKORONcLEFT REPEAT SIGNcLONGA",
   "cLONGA IMPERFECTA RESTdPERFECTA RESTcMAXIMAcMEZZOcMINIMAcMINIMA BLACKdRESTcMOON NOTEHEAD BLACK",
   "eWHITEcMULTI RESTcMULTIPLE MEASURE RESTcNATURAL DOWNdUPcNEBENSTIMMEcNOTEHEAD BLACK",
   "cNULL NOTEHEADcONE HUNDRED TWENTY-EIGHTH NOTEgRESTcONE-LINE STAFFcORNAMENT STROKE-1e10e11e2e3e4",
   "e5e6e7e8e9cOTTAVA ALTAdBASSAcPARENTHESIS NOTEHEADcPEDAL MARKdUP MARKcPES SUBPUNCTIScPIANO",
   "cPLUS NOTEHEADcPODATUScPORRECTUScPORRECTUS FLEXUScQUARTER NOTEdRESTdTONE FLATeSHARP",
   "cQUINDICESIMA ALTAdBASSAcREPEAT DOTScREPEATED FIGURE-1e2e3cREVERSE FINAL BARLINE",
   "cRIGHT REPEAT SIGNcRINFORZANDOcSCANDICUScSCANDICUS FLEXUScSEGNOcSEMIBREVIS BLACKdRESTdWHITE",
   "cSEMIMINIMA BLACKdRESTdWHITEcSHARP DOWNdUPcSHORT BARLINEcSINGLE BARLINEcSIX-LINE STAFF",
   "dSTRING FRETBOARDcSIXTEENTH NOTEdRESTcSIXTY-FOURTH NOTEeRESTcSORIcSQUARE BdNOTEHEAD BLACKeWHITE",
   "cSUBITOcTEMPUS IMPERFECTUM CUM PROLATIONE IMPERFECTAgIMPERFECTA DIMINUTION-1i2i3gPERFECTA",
   "dPERFECTUM CUM PROLATIONE IMPERFECTAgPERFECTAgPERFECTA DIMINUTION-1cTHIRTY-SECOND NOTEeREST",
   "cTHREE-LINE STAFFcTORCULUScTORCULUS RESUPINUScTRcTRIANGLE NOTEHEAD DOWN BLACKfWHITEeLEFT BLACK",
   "fWHITEeRIGHT BLACKfWHITEeUP BLACKfRIGHT BLACKgWHITEfWHITEcTRIANGLE-ROUND NOTEHEAD DOWN BLACK",
   "gWHITEcTURNcTURN SLASHdUPcTWO-LINE STAFFcVIRGAcVOID NOTEHEADcWHOLE NOTEdRESTcWITH FINGERNAILS",
   "cX NOTEHEADcZaMVSaMWaMYANMAR CONSONANT SIGN MEDIAL HAeRAeWAeYAdMON MEDIAL LAfMAfNA",
   "dSHAN MEDIAL WAbDIGIT EIGHTcFIVEcFOURcNINEcONEcSEVENcSIXcTHREEcTWOcZERObLETTER AcAITON RAcAUcBA",
   "cBHAcCAcCHAcDAcDDAcDDHAcDHAcEcEASTERN PWO KAREN GHWAfNNAfYWAcGAcGHAcGREAT SAcHAcIcIIcJAcJHAcKA",
   "cKHAcKHAMTI CAdCHAdDDAdDDHAdDHAdFAdGAdHAdHHAdJAdJHAdLLAdNAdNYAdRAdSAdTTAdTTHAdXAdZAcLAcLLAcMA",
   "cMON BBAdBBEdEdJHAdNGAcNAcNGAcNNAcNNYAcNYAcOcPAcPHAcRAcRUMAI PALAUNG FAcSAcSGAW KAREN SHAcSHA",
   "cSHAN AdBAdBHAdCAdCHAdDAdFAdGAdGHAdHAdJHAdKAdKHAdNAdNNAdNYAdPHAdTHAdZAcSHWE PALAUNG CHAeSHAcSSA",
   "cTAcTAI LAING BAeBHAeDAeDDAeDDHAeDHAeFAeGAeGHAeJAeJHAeLLAeNNAeNYAcTHAcTTAcTTHAcUcUUcVOCALIC L",
   "dLLdRdRRcWAcWESTERN PWO KAREN PWAfTHAcYAbLOGOGRAM KHAMTI HMdOAYdQN",
   "bMODIFIER LETTER KHAMTI REDUPLICATIONdSHAN REDUPLICATIONbSHAN DIGIT EIGHTdFIVEdFOURdNINEdONE",
   "dSEVENdSIXdTHREEdTWOdZERObSIGN ANUSVARAcASATcDOT BELOWcKHAMTI TONE-1e3cLITTLE SECTION",
   "cPAO KAREN TONEcRUMAI PALAUNG TONE-5cSECTIONcSHAN COUNCIL EMPHATIC TONEeTONE-2f3dSAWdTONE-2e3e5",
   "e6cTAI LAING TONE-2f5cVIRAMAcVISARGAcWESTERN PWO KAREN TONE-1g2g3g4g5bSYMBOL AFOREMENTIONED",
   "cAITON EXCLAMATIONdONEdTWOcCOMPLETEDcGENITIVEcLOCATIVEcSHAN EXCLAMATIONdONE",
   "bTAI LAING DIGIT EIGHTeFIVEeFOUReNINEeONEeSEVENeSIXeTHREEeTWOeZERObTONE MARK SGAW KAREN HATHI",
   "fKE PHObVOWEL SIGN AAdAIdAITON AeAIdEdE ABOVEdGEBA KAREN IdIdIIdKAYAH EEeOEeUdMON IIeO",
   "dSGAW KAREN EUdSHAN AAeEeE ABOVEeFINAL YdTALL AAdUdUUdVOCALIC LeLLeReRRdWESTERN PWO KAREN EUgUE",
   "aN-ARY CIRCLED DOT OPERATORdPLUS OPERATORdTIMES OPERATORcCOPRODUCTcINTERSECTIONcLOGICAL ANDdOR",
   "cPRODUCTcSQUARE INTERSECTION OPERATORdUNION OPERATORcSUMMATIONcTIMES OPERATORcUNION",
   "cUNION OPERATOR WITH DOTfPLUScWHITE VERTICAL BARaNABATAEAN CRUCIFORM NUMBER FOURbLETTER ALEPH",
   "cAYINcBETHcDALETHcFINAL ALEPHdBETHdHEdKAPHdLAMEDHdMEMdNUNdSHINdYODHcGIMELcHEcHETHcKAPHcLAMEDH",
   "cMEMcNUNcPEcQOPHcRESHcSADHEcSAMEKHcSHINcTAWcTETHcWAWcYODHcZAYINbNUMBER FIVEcFOURcONE",
   "cONE HUNDREDcTENcTHREEcTWENTYcTWOaNABLAaNAIL POLISHaNAIRA SIGNaNAKaNAME BADGEaNAND",
   "aNANDINAGARI HEADSTROKEbLETTER AcAAcAIcAUcBAcBHAcCAcCHAcDAcDDAcDDHAcDHAcEcGAcGHAcHAcIcIIcJAcJHA",
   "cKAcKHAcLAcLLAcMAcNAcNGAcNNAcNYAcOcPAcPHAcRAcRRAcSAcSHAcSSAcTAcTHAcTTAcTTHAcUcUUcVAcVOCALIC R",
   "dRRcYAbSIGN ANUSVARAcAVAGRAHAcSIDDHAMcVIRAMAcVISARGAbVOWEL SIGN AAdAIdAUdEdIdIIdO",
   "dPRISHTHAMATRA EdUdUUdVOCALIC ReRRaNARROW NO-BREAK SPACEaNATIONAL DIGIT SHAPESbPARK",
   "aNAUSEATED FACEaNAZAR AMULETaNBHaNBSPaNECKTIE",
   "aNEGATED DOUBLE VERTICAL BAR DOUBLE RIGHT TURNSTILEaNEGATIVE ACKNOWLEDGEbCIRCLED DIGIT ZERO",
   "cLATIN CAPITAL LETTER AfBfCfDfEfFfGfHfIfJfKfLfMfNfOfPfQfRfSfTfUfVfWfXfYfZcNUMBER EIGHTEEN",
   "dELEVENdFIFTEENdFOURTEENdNINETEENdSEVENTEENdSIXTEENdTHIRTEENdTWELVEdTWENTYcSQUAREcTRIANGLE",
   "bDIAGONAL CROSScDIAMONDcMIDDLE RIGHT TO LOWER CENTREbSQUARED ABcCROSS MARKcIC",
   "cLATIN CAPITAL LETTER AfBfCfDfEfFfGfHfIfJfKfLfMfNfOfPfQfRfSfTfUfVfWfXfYfZcPAcQUESTION MARKcSA",
   "cWCaNEITHER A SUBSET OF NOR EQUAL TOcSUPERSET OF NOR EQUAL TO",
   "bAPPROXIMATELY NOR ACTUALLY EQUAL TObGREATER-THAN NOR EQUAL TOeEQUIVALENT TOeLESS-THAN",
   "bLESS-THAN NOR EQUAL TOeEQUIVALENT TOeGREATER-THANaNELaNEPTUNEaNEPTUNE FORM TWOaNERD FACE",
   "aNESSUSaNEST WITH EGGSaNESTING DOLLSaNEUTERaNEUTRAL CHESS BISHOPcBISHOP ROTATED NINETY DEGREES",
   "eTWO HUNDRED SEVENTY DEGREEScEQUIHOPPERcEQUIHOPPER ROTATED NINETY DEGREEScKING",
   "cKING ROTATED NINETY DEGREESeTWO HUNDRED SEVENTY DEGREEScKNIGHT",
   "cKNIGHT ROTATED FORTY-FIVE DEGREESeNINETY DEGREESeONE HUNDRED THIRTY-FIVE DEGREES",
   "eTHREE HUNDRED FIFTEEN DEGREESeTWO HUNDRED SEVENTY DEGREESgTWENTY-FIVE DEGREEScPAWN",
   "cPAWN ROTATED NINETY DEGREESeTWO HUNDRED SEVENTY DEGREEScQUEENcQUEEN ROTATED NINETY DEGREES",
   "eTWO HUNDRED SEVENTY DEGREEScROOKcROOK ROTATED NINETY DEGREESeTWO HUNDRED SEVENTY DEGREES",
   "cTURNED BISHOPdKINGdKNIGHTdPAWNdQUEENdROOKbFACEaNEW LINEbMOON SYMBOLcWITH FACEbSHEQEL SIGN",
   "bTAI LUE DIGIT EIGHTeFIVEeFOUReNINEeONEeSEVENeSIXeTHREEeTWOeZEROdLETTER FINAL BfDfKfMfNfNGfV",
   "eHIGH BAfDAfFAfHAfKAfKVAfLAfMAfNAfNGAfPAfPHAfQAfSAfSUAfTAfTHAfTSAfVAfXAfXVAfYAeLOW BAfDAfFAfHA",
   "fKAfKVAfLAfMAfNAfNGAfPAfPHAfQAfSAfSUAfTAfTHAfTSAfVAfXAfXVAfYAdSIGN LAEeLAEVdTHAM DIGIT ONE",
   "dTONE MARK-1f2dVOWEL SIGN AAfAAYfAEfAYfEfIIfIYfOfOAfOAYfOYfUfUEfUEYfUUfUYfVOWEL SHORTENER",
   "aNEWA ABBREVIATION SIGNbCOMMAbDANDAbDIGIT EIGHTcFIVEcFOURcNINEcONEcSEVENcSIXcTHREEcTWOcZERO",
   "bDOUBLE COMMAcDANDAbGAP FILLERbINSERTION SIGNbLETTER AcAAcAIcAUcBAcBHAcCAcCHAcDAcDDAcDDHAcDHAcE",
   "cGAcGHAcHAcIcIIcJAcJHAcKAcKHAcLAcLHAcMAcMHAcNAcNGAcNGHAcNHAcNNAcNYAcNYHAcOcPAcPHAcRAcRHAcSAcSHA",
   "cSSAcTAcTHAcTTAcTTHAcUcUUcVEDIC ANUSVARAcVOCALIC LdLLdRdRRcWAcYAbOMbPLACEHOLDER MARK",
   "bSANDHI MARKbSIDDHIbSIGN ANUSVARAcAVAGRAHAcCANDRABINDUcFINAL ANUSVARAcJIHVAMULIYAcNUKTA",
   "cUPADHMANIYAcVIRAMAcVISARGAbVOWEL SIGN AAdAIdAUdEdIdIIdOdUdUUdVOCALIC LeLLeReRRaNEWLINE LEFT",
   "bRIGHTaNEWSPAPERaNEXT LINEbPAGEaNIGHT WITH STARSaNINJAaNKO COMBINING DOUBLE DOT ABOVE",
   "cLONG DESCENDING TONEdHIGH TONEdLOW TONEdRISING TONEcNASALIZATION MARKcSHORT HIGH TONEdLOW TONE",
   "dRISING TONEbCOMMAbDANTAYALANbDIGIT EIGHTcFIVEcFOURcNINEcONEcSEVENcSIXcTHREEcTWOcZERO",
   "bDOROME SIGNbEXCLAMATION MARKbHIGH TONE APOSTROPHEbLAJANYALANbLETTER AcBAcCHAcDAcDAGBASINNAcE",
   "cEEcFAcGBAcHAcIcJAcJONA CHAdJAdRAcKAcLAcMAcNcNAcNA WOLOSOcNYAcNYA WOLOSOcOcOOcPAcRAcRRAcSAcTAcU",
   "cWAcYAbLOW TONE APOSTROPHEbSYMBOL GBAKURUNENcOO DENNENbTAMAN SIGNaNLaNNBSPaNO BICYCLES",
   "bBREAK HEREbENTRYbENTRY SIGNbMOBILE PHONESbONE UNDER EIGHTEEN SYMBOLbPEDESTRIANSbPIRACY",
   "bSMOKING SYMBOLaNO-BREAK SPACEaNOMINAL DIGIT SHAPESaNOMISMA SIGNaNON-BREAKING HYPHEN",
   "bPOTABLE WATER SYMBOLaNONFORKINGaNORaNORDIC MARK SIGNaNORMAL SUBGROUP OFcOF OR EQUAL TO",
   "aNORTH EAST AND SOUTH WEST ARROWcARROWcARROW AND SOUTH EAST ARROWdCROSSING NORTH WEST ARROW",
   "eSOUTH EAST ARROWdWITH HOOKcBLACK ARROWcDOUBLE ARROWcPOINTING BUDdLEAFdVINE LEAF",
   "cSANS-SERIF ARROWcTRIANGLE-HEADED ARROWeARROW TO BARcWHITE ARROWbINDIC FRACTION ONE EIGHTHeHALF",
   "eQUARTEReSIXTEENTHdTHREE QUARTERSeSIXTEENTHScPLACEHOLDER MARKcQUANTITY MARKcQUARTER MARK",
   "cRUPEE MARKbWEST AND SOUTH EAST ARROWcARROWcARROW AND NORTH EAST ARROW",
   "dCROSSING NORTH EAST ARROWdTO CORNEReLONG BARdWITH HOOKcBLACK ARROWcDOUBLE ARROWcPOINTING BUD",
   "dLEAFdVINE LEAFcSANS-SERIF ARROWcTRIANGLE-HEADED ARROWeARROW TO BARcWHITE ARROW",
   "aNORTHEAST-POINTING AIRPLANEaNOSEaNOT A SUBSET OFcSUPERSET OFbALMOST EQUAL TObAN ELEMENT OF",
   "bASYMPTOTICALLY EQUAL TObCHECK MARKbEQUAL TObEQUIVALENT TObGREATER-THANbIDENTICAL TObLESS-THAN",
   "bNORMAL SUBGROUP OFdOF OR EQUAL TObPARALLEL TObSIGNbSQUARE IMAGE OF OR EQUAL TO",
   "cORIGINAL OF OR EQUAL TObTILDEbTRUEaNOTCHED LEFT SEMICIRCLE WITH THREE DOTS",
   "bLOWER RIGHT-SHADOWED WHITE RIGHTWARDS ARROWbRIGHT SEMICIRCLE WITH THREE DOTS",
   "bUPPER RIGHT-SHADOWED WHITE RIGHTWARDS ARROWaNOTEaNOTE PADbPAGEaNOTEBOOK",
   "aNOTEBOOK WITH DECORATIVE COVERaNULaNULLaNUMBER EIGHTEEN FULL STOPbELEVEN FULL STOP",
   "bFIFTEEN FULL STOPbFOURTEEN FULL STOPbNINETEEN FULL STOPbSEVENTEEN FULL STOPbSIGN",
   "bSIXTEEN FULL STOPbTEN FULL STOPbTHIRTEEN FULL STOPbTWELVE FULL STOPbTWENTY FULL STOP",
   "aNUMERO SIGNaNUSHU ITERATION MARKaNUT AND BOLTaNYIAKENG PUACHUE HMONG CIRCLED CAdDIGIT EIGHT",
   "eFIVEeFOUReNINEeONEeSEVENeSIXeTHREEeTWOeZEROdLETTER AeAAeCAeDAeDLAeEeEEeFAeGAeHAeHAHeIeKAeLAeMA",
   "eMLAeNAeNCAeNKAeNPAeNPLAeNQAeNRAeNTAeNTSAeNTXAeNYAeOeOOePAePLAeQAeRAeRRAeSAeTAeTSAeTXAeUeVAeW",
   "eXAeXYAeYAeZAdLOGOGRAM NYAJdSIGN FOR ANIMALfINVERTEBRATEfLOCATIONfPERSONfTHINGeXW XW",
   "dSYLLABLE LENGTHENERdTONE-BeDeGeJeMeSeVaOBJECT REPLACEMENT CHARACTERaOBLIQUE ANGLE OPENING DOWN",
   "dUPbHYPHENaOBSERVER EYE SYMBOLaOCR AMOUNT OF CHECKbBELT BUCKLEbBOW TIE",
   "bBRANCH BANK IDENTIFICATIONbCHAIRbCUSTOMER ACCOUNT NUMBERbDASHbDOUBLE BACKSLASHbFORKbHOOK",
   "bINVERTED FORKaOCTAGONAL SIGNaOCTOPUSaODENaOFFICE BUILDINGaOGHAM FEATHER MARKbLETTER AILMcBEITH",
   "cCEIRTcCOLLcDAIRcEABHADHcEADHADHcEAMHANCHOLLcFEARNcGORTcIFINcIODHADHcLUIScMUINcNGEADALcNIONcONN",
   "cORcPEITHcRUIScSAILcSTRAIFcTINNEcUATHcUILLEANNcURbREVERSED FEATHER MARKbSPACE MARKaOGONEK",
   "aOHM SIGNaOIL DRUMaOK HAND SIGNaOL CHIKI AHADcDIGIT EIGHTdFIVEdFOURdNINEdONEdSEVENdSIXdTHREE",
   "dTWOdZEROcGAAHLAA TTUDDAAGcLETTER AAJdAAKdAAMdAAWdAGdALdANGdATdEDDdENdEPdERRdIHdINYdIRdISdLA",
   "dLAAdLEdLIdLOdLUdOBdOHdOTTdOVdUCdUDdUNNdUYcMU TTUDDAGcMU-GAAHLAA TTUDDAAGcPHAARKAA",
   "cPUNCTUATION DOUBLE MUCAADdMUCAADcRELAAaOLD CHINESE HOOK MARKcITERATION MARK",
   "bHUNGARIAN CAPITAL LETTER AeAAeAKeAMBeANDeCLOSE EeEeEBeECeECHeECSeEDeEEeEFeEGeEGYeEHeEJeEKeEL",
   "eELYeEMeEMPeENeENCeENTeENT-SHAPED SIGNeENYeEPeEReESeESZeETeETYeEVeEZeEZSeIeIIeNIKOLSBURG OEfUE",
   "eOeOEEeOOeRUDIMENTA OEfUEeSHORT EReUeUNKeUSeUUcNUMBER FIFTYdFIVEdONEdONE HUNDREDeTHOUSANDdTEN",
   "cSMALL LETTER AeAAeAKeAMBeANDeCLOSE EeEeEBeECeECHeECSeEDeEEeEFeEGeEGYeEHeEJeEKeELeELYeEMeEMPeEN",
   "eENCeENTeENT-SHAPED SIGNeENYeEPeEReESeESZeETeETYeEVeEZeEZSeIeIIeNIKOLSBURG OEfUEeOeOEEeOO",
   "eRUDIMENTA OEfUEeSHORT EReUeUNKeUSeUUbITALIC LETTER AdBEdCHEdDEdEdEFdEKSdELdEMdENdERdERSdESdESH",
   "dESSdHEdIdIIdKAdKEdKHEdKUdNORTHERN TSEdOdPEdPHEdSHEdSOUTHERN TSEdTEdTHEdUdUUdVEdYEdZE",
   "cNUMERAL FIFTYdFIVEdONEdTENbKEYbNORTH ARABIAN LETTER AINeALEFeBEHeDADeDALeES-1f2f3eFEHeGEEM",
   "eGHAINeHAHeHEHeKAFeKHAHeLAMeMEEMeNOONeQAFeREHeSADeTAHeTEHeTHALeTHEHeWAWeYEHeZAHeZAINdNUMBER ONE",
   "eTENeTWENTYbPERMIC LETTER ANdBURdCHERYdDOIdDZHOIdDZITAdEdEFdGAIdHAdIdIAdIEdKOKEdLEIdMENOEdNENOE",
   "dOdOOdPEEIdREIdSHCHOOIdSHOOIdSIIdTAIdTSIUdUdVERdVOOIdYAdYATdYERdYERIdYERUdYRYdYUdZATAdZHOI",
   "bPERSIAN NUMBER HUNDREDdONEdTENdTWENTYdTWOcSIGN AdAURAMAZDAAdAURAMAZDAA-2dAURAMAZDAAHAdBAdBAGA",
   "dBUUMISHdCAdDAdDAHYAAUSHdDAHYAAUSH-2dDIdDUdFAdGAdGUdHAdIdJAdJIdKAdKUdLAdMAdMIdMUdNAdNUdPAdRAdRU",
   "dSAdSHAdSSAdTAdTHAdTUdUdVAdVIdXAdXSHAAYATHIYAdYAdZAcWORD DIVIDERbPERSONAL COMPUTER",
   "bSOGDIAN FRACTION ONE HALFcLETTER ALEPHdALTERNATE AYINdAYINdBETHdFINAL ALEPHeBETHeHEeNUN",
   "eNUN WITH VERTICAL TAILeSADHEeSADHE WITH VERTICAL TAILeTAWeTAW WITH VERTICAL TAILdGIMELdHEdHETH",
   "dKAPHdLAMEDHdMEMdNUNdPEdRESH-AYIN-DALETHdSADHEdSAMEKHdSHINdTAWdWAWdYODHdZAYIN",
   "cLIGATURE AYIN-DALETHcNUMBER FIVEdFOURdONEdONE HUNDREDdTENdTHIRTYdTHREEdTWENTYdTWO",
   "bSOUTH ARABIAN LETTER ALEFeAYNeBETHeDALETHeDHADHEeDHALETHeFEeGHAYNeGIMELeHEeHETHeKAPHeKHETH",
   "eLAMEDHeMEMeNUNeQOPHeRESHeSADHEeSAMEKHeSATeSHINeTAWeTETHeTHAWeTHETHeWAWeYODHeZAYNdNUMBER FIFTY",
   "eONEdNUMERIC INDICATORbTURKIC LETTER ORKHON AeABeADeAEBeAEDeAEGeAEKeAELeAENeAEReAESeAETeAEYeAG",
   "eALeANeAQeAReASeASHeATeAYeBASHeECeELTeEMeENCeENGeENTeENYeEPeESHeEZeIeICeIQeOeOEeOEKeOPeOQeOT",
   "dYENISEI AeABeADeAEeAEBeAEGeAEKeAENeAENGeAETeAEYeAGeALeANGeAQeAReASHeATeAYeEeECeENCeENTeENYeESH",
   "eEZeIeIQeOEeOEKeOQbUYGHUR COMBINING DOT ABOVEeBELOWdTWO DOTS ABOVEfBELOWcLETTER ALEPHdBETH",
   "dFINAL HETHdGIMEL-HETHdKAPHdLAMEDHdLESHdMEMdNUNdPEdRESHdSADHEdSAMEKHdSHINdTAWdWAWdYODHdZAYIN",
   "cPUNCTUATION BARdFOUR DOTSdTWO BARSeDOTSaOLDER ADULTbMANbWOMANaOLIVEaOM SYMBOL",
   "aON WITH EXCLAMATION MARK WITH LEFT RIGHT ARROW ABOVEaONCOMING AUTOMOBILEbBUSbFIRE ENGINE",
   "bPOLICE CARbTAXIaONE BUTTON MOUSEbDOT LEADERcOVER TWO DOTS PUNCTUATIONaONE-PIECE SWIMSUITaONION",
   "aOPEN BOOKbBOXbCENTRE ASTERISKcBLACK STARcCROSScTEARDROP-SPOKED ASTERISKbFILE FOLDERbFOLDER",
   "bHANDS SIGNbLOCKbMAILBOX WITH LOWERED FLAGdRAISED FLAGbSUBSETbSUPERSET",
   "aOPEN-CIRCUIT-OUTPUT H-TYPE SYMBOLdL-TYPE SYMBOLbOUTLINED RIGHTWARDS ARROW",
   "aOPERATING SYSTEM COMMANDaOPHIUCHUSaOPPOSITIONaOPTICAL DISCbDISC ICONaOPTION KEY",
   "aOR WITH DOT INSIDEaORANGE BOOKbHEARTaORANGUTANaORIGINAL OFaORIYA AI LENGTH MARKbAU LENGTH MARK",
   "bDIGIT EIGHTcFIVEcFOURcNINEcONEcSEVENcSIXcTHREEcTWOcZERObFRACTION ONE EIGHTHdHALFdQUARTER",
   "dSIXTEENTHcTHREE QUARTERSdSIXTEENTHSbISSHARbLETTER AcAAcAIcAUcBAcBHAcCAcCHAcDAcDDAcDDHAcDHAcE",
   "cGAcGHAcHAcIcIIcJAcJHAcKAcKHAcLAcLLAcMAcNAcNGAcNNAcNYAcOcPAcPHAcRAcRHAcRRAcSAcSHAcSSAcTAcTHA",
   "cTTAcTTHAcUcUUcVAcVOCALIC LdLLdRdRRcWAcYAcYYAbSIGN ANUSVARAcAVAGRAHAcCANDRABINDUcNUKTAcOVERLINE",
   "cVIRAMAcVISARGAbVOWEL SIGN AAdAIdAUdEdIdIIdOdUdUUdVOCALIC LeLLeReRRaORNATE LEFT PARENTHESIS",
   "bRIGHT PARENTHESISaORTHODOX CROSSaOSAGE CAPITAL LETTER AdAHdAIdAINdBRAdCHAdDHAdEdEHCHAdEHKA",
   "dEHPAdEHTAdEHTSAdEINdGHAdHAdHYAdIdKAdKHAdKYAdLAdMAdNAdOdOINdPAdSAdSHAdTAdTSAdTSHAdUdWAdZAdZHA",
   "bSMALL LETTER AdAHdAIdAINdBRAdCHAdDHAdEdEHCHAdEHKAdEHPAdEHTAdEHTSAdEINdGHAdHAdHYAdIdKAdKHAdKYA",
   "dLAdMAdNAdOdOINdPAdSAdSHAdTAdTSAdTSHAdUdWAdZAdZHAaOSCaOSMANYA DIGIT EIGHTcFIVEcFOURcNINEcONE",
   "cSEVENcSIXcTHREEcTWOcZERObLETTER AcAAcALEFcBAcCAYNcDEELcDHAcEcEEcFAcGAcHAcIcJAcKAAFcKHAcLAAN",
   "cMIINcNUUNcOcOOcQAAFcRAcSAcSHIINcTAcUcWAWcXAcYAaOTTERaOTTOMAN SIYAQ ALTERNATE NUMBER EIGHTeFIVE",
   "eFOUReFOUR HUNDREDeNINEeSEVENeSIXeSIX HUNDREDeTENeTEN THOUSANDeTHREEeTWOeTWO THOUSAND",
   "cFRACTION ONE HALFeSIXTHcMARRATANcNUMBER EIGHTdEIGHT HUNDREDeTHOUSANDdEIGHTYdEIGHTY THOUSAND",
   "dFIFTYdFIFTY THOUSANDdFIVEdFIVE HUNDREDeTHOUSANDdFORTYdFORTY THOUSANDdFOURdFOUR HUNDRED",
   "eTHOUSANDdNINEdNINE HUNDREDeTHOUSANDdNINETYdNINETY THOUSANDdONEdONE HUNDREDeTHOUSANDdSEVEN",
   "dSEVEN HUNDREDeTHOUSANDdSEVENTYdSEVENTY THOUSANDdSIXdSIX HUNDREDeTHOUSANDdSIXTYdSIXTY THOUSAND",
   "dTENdTEN THOUSANDdTHIRTYdTHIRTY THOUSANDdTHREEdTHREE HUNDREDeTHOUSANDdTWENTYdTWENTY THOUSAND",
   "dTWOdTWO HUNDREDeTHOUSANDaOUNCE SIGNaOUTBOX TRAYaOUTLINED BLACK STARbGREEK CROSSbLATIN CROSS",
   "bWHITE STARaOVERHEATED FACEaOVERLAPaOVERLAPPING BLACK SQUARESbWHITE AND BLACK SQUAREScSQUARES",
   "aOVERLINEaOWLaOXaOYSTERaPACKAGEaPADaPADDING CHARACTERaPAGEaPAGE FACING UPbWITH CIRCLED TEXT",
   "cCURLaPAGERaPAGESaPAGODAaPAHAWH HMONG CLAN SIGN FAJeHAMeHAWJeKHABeKOOeKWMeLAUJeLISeMUASePHAB",
   "eTHOJeTSABeTSHEEJeTSWBeVAJeVWJeXYOOJeYAJeYEEGcCONSONANT AUdCAUdCHAUdHAUdHLAUdHNAUdLAUdMAUdNAU",
   "dNCHAUdNKAUdNLAUdNTHAUdNTSAUdPLHAUdQHAUdRAUdVAUdXAUdYAUcDIGIT EIGHTdFIVEdFOURdNINEdONEdSEVEN",
   "dSIXdTHREEdTWOdZEROcMARK CIM HOMeKESeKHAVeSOeSUAMeTAUMeTUBcNUMBER HUNDRED MILLIONSdHUNDREDS",
   "dMILLIONSdTEN BILLIONSeTHOUSANDSdTENSdTRILLIONScSIGN AVdCIM CHEEMeCUAM TSHOOJ",
   "eHAIS LUS NTOG NTOGeNRES TOSePUB DAWBeTSOV ROGeTXWVeTXWV CHWVdHLIdHNUBdIB YAMdLOSdMEEJ SUAB",
   "eTSEEBdMUSdNQIGdNTUJdTAUdTHIRD-STAGE HLIdTXHEEJ CEEVdVOS FEEMeLUBeNRUAeSEEVeTHIABeTHOM",
   "eTSHAB CEEBdXAUSdXIABdXYEEM FAIBeNTXIVeRHOeTOVdXYOOdZWJ THAJcVOWEL KAABdKAAVdKABdKAIBdKAIVdKAUB",
   "dKAUVdKAVdKAWBdKAWVdKEBdKEEBdKEEVdKEVdKIABdKIAVdKIBdKIVdKOBdKOOBdKOOVdKOVdKUABdKUAVdKUBdKUVdKWB",
   "dKWVaPALLASaPALM BRANCHbDOWN HANDbTREEbUP HANDaPALMS UP TOGETHER",
   "aPALMYRENE LEFT-POINTING FLEURONbLETTER ALEPHcAYINcBETHcDALETHcFINAL NUNcGIMELcHEcHETHcKAPH",
   "cLAMEDHcMEMcNUNcPEcQOPHcRESHcSADHEcSAMEKHcSHINcTAWcTETHcWAWcYODHcZAYINbNUMBER FIVEcFOURcONEcTEN",
   "cTHREEcTWENTYcTWObRIGHT-POINTING FLEURONaPANCAKESaPANDA FACEaPAPERCLIPaPARACHUTE",
   "aPARAGRAPH SEPARATORaPARAGRAPHOSaPARAGRAPHUS MARKaPARALLEL TObWITH HORIZONTAL STROKE",
   "cTILDE OPERATORaPARENTHESIZED DIGIT EIGHTcFIVEcFOURcNINEcONEcSEVENcSIXcTHREEcTWObHANGUL CHIEUCH",
   "cCHIEUCH AcCIEUCcCIEUC AdUcHIEUHcHIEUH AcIEUNGcIEUNG AcKHIEUKHcKHIEUKH AcKIYEOKcKIYEOK AcMIEUM",
   "cMIEUM AcNIEUNcNIEUN AcPHIEUPHcPHIEUPH AcPIEUPcPIEUP AcRIEULcRIEUL AcSIOScSIOS AcTHIEUTH",
   "cTHIEUTH AcTIKEUTcTIKEUT AbIDEOGRAPH ALLIANCEcCALLcCONGRATULATIONcEARTHcEIGHTcENTERPRISE",
   "cFESTIVALcFINANCIALcFIREcFIVEcFOURcHAVEcLABORcMETALcMOONcNAMEcNINEcONEcREACHcREPRESENTcRESOURCE",
   "cRESTcSELFcSEVENcSIXcSOCIETYcSPECIALcSTOCKcSTUDYcSUNcSUPERVISEcTENcTHREEcTWOcWATERcWOOD",
   "bKOREAN CHARACTER O HUdOJEONbLATIN CAPITAL LETTER AeBeCeDeEeFeGeHeIeJeKeLeMeNeOePeQeReSeTeUeVeW",
   "eXeYeZcSMALL LETTER AeBeCeDeEeFeGeHeIeJeKeLeMeNeOePeQeReSeTeUeVeWeXeYeZbNUMBER EIGHTEENcELEVEN",
   "cFIFTEENcFOURTEENcNINETEENcSEVENTEENcSIXTEENcTENcTHIRTEENcTWELVEcTWENTYaPARROT",
   "aPART ALTERNATION MARKaPARTIAL DIFFERENTIALbLINE BACKWARDcDOWNcFORWARDcUP",
   "aPARTIALLY-RECYCLED PAPER SYMBOLaPARTNERSHIP SIGNaPARTY POPPERaPASSED SYMBOLaPASSENGER SHIP",
   "aPASSIVE-PULL-DOWN-OUTPUT SYMBOLcUP-OUTPUT SYMBOLaPASSPORT CONTROLaPAU CIN HAU GLOTTAL STOP",
   "eSTOP FINALfVARIANTdLETTER AeBAeCAeCHAeDAeEeFAeFINAL KfLfMfNfNGfPfTfWfYeGAeHAeIeIAeKAeKHAeLAeMA",
   "eNAeNGAeOePAePHAeRAeSAeTAeTHAeUeUAeVAeZAdLOW-FALLING TONEfTONE FINALgLONGgLONG FINAL",
   "dMID-LEVEL TONEfTONE FINALgLONG FINALdRISING TONEeTONE FINALfLONGfLONG FINAL",
   "dSANDHI GLOTTAL STOPfSTOP FINALeTONEeTONE FINALfLONGfLONG FINALaPAW PRINTSaPDFaPDIaPEACE SYMBOL",
   "aPEACHaPEACOCKaPEANUTSaPEARaPEDESTRIANaPEN OVER STAMPED ENVELOPEaPENCILaPENGUINaPENSIVE FACE",
   "aPENTAGRAMaPEOPLE HUGGINGaPER MILLE SIGNbSIGNbTEN THOUSAND SIGNaPERCENT SIGNaPERFORMING ARTS",
   "aPERMANENT PAPER SIGNaPERPENDICULARaPERPENDICULAR WITH SaPERSEVERING FACEaPERSON BOWING DEEPLY",
   "bCLIMBINGbDOING CARTWHEELbFROWNINGbIN LOTUS POSITIONcSTEAMY ROOM",
   "bRAISING BOTH HANDS IN CELEBRATIONbWITH BALLcBLOND HAIRcCROWNcFOLDED HANDScHEADSCARF",
   "cPOUTING FACEaPERSONAL COMPUTERaPERSPECTIVEaPESETA SIGNaPESO SIGNaPETRI DISH",
   "aPHAGS-PA DOUBLE HEAD MARKcLETTER AdALTERNATE YAdASPIRATED FAdBAdCAdCANDRABINDUdCHAdDAdDDAdDZA",
   "dEdEEdFAdGAdGGAdHAdIdJAdKAdKHAdLAdMAdNAdNGAdNNAdNYAdOdPAdPHAdQAdRAdSAdSHAdSMALL AdTAdTHAdTSA",
   "dTSHAdTTAdTTHAdUdVOICED HAdVOICELESS SHAdWAdXAdYAdZAdZHAcMARK DOUBLE SHADdSHADcSINGLE HEAD MARK",
   "cSUBJOINED LETTER RAeWAeYAcSUPERFIXED LETTER RAaPHAISTOS DISC SIGN ARROWdBEEdBEEHIVEdBOOMERANG",
   "dBOWdBULLS LEGdCAPTIVEdCARPENTRY PLANEdCATdCHILDdCLUBdCOLUMNdCOMBdCOMBINING OBLIQUE STROKE",
   "dDOLIUMdDOVEdEAGLEdFLUTEdGAUNTLETdGRATERdHELMETdHIDEdHORNdLIDdLILYdMANACLESdMATTOCKdOX BACK",
   "dPAPYRUSdPEDESTRIANdPLANE TREEdPLUMED HEADdRAMdROSETTEdSAWdSHIELDdSHIPdSLINGdSMALL AXEdSTRAINER",
   "dTATTOOED HEADdTIARAdTUNNYdVINEdWAVY BANDdWOMANaPHILIPPINE DOUBLE PUNCTUATION",
   "bSINGLE PUNCTUATIONaPHOENICIAN LETTER AINcALFcBETcDELTcGAMLcHEcHETcKAFcLAMDcMEMcNUNcPEcQOFcROSH",
   "cSADEcSEMKcSHINcTAUcTETcWAUcYODcZAIbNUMBER ONEcONE HUNDREDcTENcTHREEcTWENTYcTWObWORD SEPARATOR",
   "aPHOLUSaPICKaPICKUP TRUCKaPIEaPIGaPIG FACEbNOSEaPILCROW SIGNaPILE OF POOaPILLaPINATA",
   "aPINCHED FINGERSaPINCHING HANDaPINE DECORATIONaPINEAPPLEaPINWHEEL STARaPISCESaPISTOLaPITCHFORK",
   "aPITCHFORK WITH TEE TOPaPLACARDaPLACE OF INTEREST SIGNcWORSHIPaPLANCK CONSTANT",
   "bCONSTANT OVER TWO PIaPLAYGROUND SLIDEaPLAYING CARD ACE OF CLUBSeDIAMONDSeHEARTSeSPADEScBACK",
   "cBLACK JOKERcEIGHT OF CLUBSeDIAMONDSeHEARTSeSPADEScFIVE OF CLUBSeDIAMONDSeHEARTSeSPADEScFOOL",
   "cFOUR OF CLUBSeDIAMONDSeHEARTSeSPADEScJACK OF CLUBSeDIAMONDSeHEARTSeSPADEScKING OF CLUBS",
   "eDIAMONDSeHEARTSeSPADEScKNIGHT OF CLUBSeDIAMONDSeHEARTSeSPADEScNINE OF CLUBSeDIAMONDSeHEARTS",
   "eSPADEScQUEEN OF CLUBSeDIAMONDSeHEARTSeSPADEScRED JOKERcSEVEN OF CLUBSeDIAMONDSeHEARTSeSPADES",
   "cSIX OF CLUBSeDIAMONDSeHEARTSeSPADEScTEN OF CLUBSeDIAMONDSeHEARTSeSPADEScTHREE OF CLUBS",
   "eDIAMONDSeHEARTSeSPADEScTRUMP-1d10d11d12d13d14d15d16d17d18d19d2d20d21d3d4d5d6d7d8d9",
   "cTWO OF CLUBSeDIAMONDSeHEARTSeSPADEScWHITE JOKERaPLDaPLUaPLUNGERaPLUS SIGN",
   "bSIGN ABOVE EQUALS SIGNcIN LEFT HALF CIRCLEdRIGHT HALF CIRCLEdTRIANGLEcWITH BLACK TRIANGLE",
   "dCIRCUMFLEX ACCENT ABOVEdDOT BELOWdSMALL CIRCLE ABOVEdSUBSCRIPT TWOdTILDE ABOVEeBELOW",
   "aPLUS-MINUS SIGNaPLUTOaPLUTO FORM FIVEcFOURcTHREEcTWOaPMaPOCKET CALCULATORaPOLICE CAR",
   "bCARS REVOLVING LIGHTbOFFICERaPOODLEaPOP DIRECTIONAL FORMATTINGcISOLATEaPOPCORNaPORTABLE STEREO",
   "aPOSEIDONaPOSITION INDICATORaPOSTAL HORNbMARKbMARK FACEaPOSTBOXaPOT OF FOOD",
   "aPOTABLE WATER SYMBOLaPOTATOaPOTTED PLANTaPOUCHaPOULTRY LEGaPOUND SIGNaPOURING LIQUID",
   "aPOUTING CAT FACEbFACEaPOWER ON SYMBOLbON-OFF SYMBOLbSLEEP SYMBOLbSYMBOLaPRAYER BEADSaPRECEDES",
   "aPRECEDES ABOVE ALMOST EQUAL TOcEQUALS SIGNcNOT ALMOST EQUAL TOdEQUAL TO",
   "cSINGLE-LINE EQUALS SIGNeNOT EQUAL TObBUT NOT EQUIVALENT TObOR EQUAL TOcEQUIVALENT TO",
   "bUNDER RELATIONaPREGNANT MANbPERSONbWOMANaPRESCRIPTION TAKE",
   "aPRESENTATION FORM FOR VERTICAL COLONeCOMMAeEM DASHeEN DASHeEXCLAMATION MARK",
   "eHORIZONTAL ELLIPSISeIDEOGRAPHIC COMMAfFULL STOPeLEFT ANGLE BRACKETfBLACK LENTICULAR BRACKET",
   "fCORNER BRACKETfCURLY BRACKETfDOUBLE ANGLE BRACKETfPARENTHESISfSQUARE BRACKET",
   "fTORTOISE SHELL BRACKETfWHITE CORNER BRACKETgLENTICULAR BRACKETeLOW LINEeQUESTION MARK",
   "eRIGHT ANGLE BRACKETfBLACK LENTICULAR BRACKETfCORNER BRACKETfCURLY BRACKETfDOUBLE ANGLE BRACKET",
   "fPARENTHESISfSQUARE BRACKETfTORTOISE SHELL BRACKETfWHITE CORNER BRACKETgLENTICULAR BRACKET",
   "hBRAKCETeSEMICOLONeTWO DOT LEADEReWAVY LOW LINEaPRETZELaPREVIOUS PAGEaPRIMEaPRINCEaPRINCESS",
   "aPRINT SCREEN SYMBOLaPRINTERaPRINTER ICONaPRIVACY MESSAGEaPRIVATE USE ONEcTWObUSE-1c2",
   "aPROBING CANEaPROHIBITED SIGNaPROJECTIVEaPROPERTY LINEaPROPORTIONaPROPORTIONAL TOaPROSERPINA",
   "aPSALTER PAHLAVI FOUR DOTS WITH CROSSfDOTcLETTER ALEPHdBETHdDALETHdGIMELdHEdHETHdKAPHdLAMEDH",
   "dMEM-QOPHdNUNdPEdSADHEdSAMEKHdSHINdTAWdWAW-AYIN-RESHdYODHdZAYINcNUMBER FOURdONEdONE HUNDREDdTEN",
   "dTHREEdTWENTYdTWOcSECTION MARKcTURNED SECTION MARKaPU1aPU2aPUBLIC ADDRESS LOUDSPEAKER",
   "aPUNCTUATION SPACEaPUNCTUS ELEVATUS MARKaPURPLE HEARTaPURSEaPUSHPIN",
   "aPUT LITTER IN ITS PLACE SYMBOLaQUADRANT LOWER LEFTcRIGHTbUPPER LEFT",
   "cLEFT AND LOWER LEFT AND LOWER RIGHTfRIGHTeUPPER RIGHT AND LOWER LEFTiRIGHTcRIGHT",
   "cRIGHT AND LOWER LEFTfLEFT AND LOWER RIGHTaQUADRUPLE INTEGRAL OPERATORbPRIMEaQUARTER NOTE",
   "aQUATERNION INTEGRAL OPERATORaQUESTION EXCLAMATION MARKbMARKaQUESTIONED EQUAL TOaQUINCUNX",
   "aQUOTATION MARKaRABBITaRABBIT FACEaRACCOONaRACING CARbMOTORCYCLEaRADICAL SYMBOL BOTTOMaRADIO",
   "aRADIO BUTTONaRADIOACTIVE SIGNaRAILWAY CARbTRACKaRAINaRAINBOWaRAISED BACK OF HANDbCOMMAbDOT",
   "bDOTTED INTERPOLATION MARKERbFISTbHANDbHAND WITH FINGERS SPLAYED",
   "dPART BETWEEN MIDDLE AND RING FINGERSbINTERPOLATION MARKERbMC SIGNbMD SIGNbMR SIGNbSQUAREaRAM",
   "aRATaRATIOaRAZORaRECEIPTaRECORD SEPARATORaRECREATIONAL VEHICLEaRECYCLED PAPER SYMBOL",
   "aRECYCLING SYMBOL FOR GENERIC MATERIALSdTYPE-1 PLASTICSe2 PLASTICSe3 PLASTICSe4 PLASTICS",
   "e5 PLASTICSe6 PLASTICSe7 PLASTICSaRED APPLEbGIFT ENVELOPEaREFERENCE MARK",
   "aREGIONAL INDICATOR SYMBOL LETTER AeBeCeDeEeFeGeHeIeJeKeLeMeNeOePeQeReSeTeUeVeWeXeYeZ",
   "aREGISTERED SIGNaREJANG CONSONANT SIGN HdNdNGdRbLETTER AcBAcCAcDAcGAcHAcJAcKAcLAcMAcMBAcNAcNDA",
   "cNGAcNGGAcNYAcNYJAcPAcRAcSAcTAcWAcYAbSECTION MARKbVIRAMAbVOWEL SIGN AIdAUdEdEAdEUdIdOdU",
   "aRELIEVED FACEaREMINDER RIBBONaREPLACEMENT CHARACTERaRESPONSEaRESTRICTED LEFT ENTRY-1d2",
   "aRESTROOMaRETURN LEFTbRIGHTbSYMBOLaREVERSE CHECKER BOARDbINDEXbLIGHT FOUR POINTED PINWHEEL STAR",
   "bLINE FEEDbSOLIDUSbSOLIDUS OPERATORcPRECEDING SUBSETcWITH HORIZONTAL STROKE",
   "bTILDE OPERATOR ABOVE LEFTWARDS ARROWeRIGHTWARDS ARROWaREVERSED ANGLEbANGLE WITH UNDERBARbCOMMA",
   "bDOUBLE PRIMEcPRIME QUOTATION MARKcSTROKE NOT SIGNbEMPTY SETbFORKED PARAGRAPHOS",
   "bHAND WITH MIDDLE FINGER EXTENDEDbNOT SIGNbPILCROW SIGNbPRIMEbQUESTION MARK",
   "bRAISED HAND WITH FINGERS SPLAYEDbRIGHT ANGLEbROTATED FLORAL HEART BULLETbSANS-SERIF CAPITAL L",
   "bSEMICOLONbTHUMBS DOWN SIGNcUP SIGNbTILDEbTILDE EQUALSbTRIPLE PRIMEbVICTORY HAND",
   "aREVOLVING HEARTSaRHINOCEROSaRIaRIAL SIGNaRIBBONaRIBBON ARROW DOWN LEFTdRIGHTcLEFT DOWNdUP",
   "cRIGHT DOWNdUPcUP LEFTdRIGHTaRICE BALLbCRACKERaRIFLEaRIGHT AND LOWER ONE EIGHTH BLOCK",
   "cUPPER ONE EIGHTH BLOCKbANGER BUBBLEbANGLEbANGLE BRACKETcBRACKET WITH DOT",
   "cDOTTED SUBSTITUTION MARKERcSUBSTITUTION MARKERcVARIANT WITH SQUAREcWITH ARC",
   "dDOWNWARDS ZIGZAG ARROWbARC GREATER-THAN BRACKETbARROW WITH CIRCLED PLUSdSMALL CIRCLE",
   "bBLACK LENTICULAR BRACKETcTORTOISE SHELL BRACKETbCEILINGbCORNER BRACKETbCURLY BRACKET",
   "cBRACKET LOWER HOOKdMIDDLE PIECEdUPPER HOOKbDOTTED SUBSTITUTION BRACKETbDOUBLE ANGLE BRACKET",
   "cARROW WITH ROUNDED HEADcPARENTHESIScQUOTATION MARKcWIGGLY FENCEbFISH TAILbFIVE EIGHTHS BLOCK",
   "bFLOORbHALF BLACK CIRCLEdSTARcBLOCKcFOLDERcMEDIUM SHADEcRUNNING MANbHAND TELEPHONE RECEIVER",
   "bLOW PARAPHRASE BRACKETbNORMAL FACTOR SEMIDIRECT PRODUCTbONE EIGHTH BLOCKcQUARTER BLOCK",
   "bOPEN SQUARED DOTbOUTER JOINbPARENTHESISbPARENTHESIS EXTENSIONcLOWER HOOKcUPPER HOOK",
   "bRAISED OMISSION BRACKETbS-SHAPED BAG DELIMITERbSEMIDIRECT PRODUCTbSEVEN EIGHTHS BLOCK",
   "bSIDEWAYS U BRACKETbSINGLE QUOTATION MARKbSPEAKERbSPEAKER WITH ONE SOUND WAVEdTHREE SOUND WAVES",
   "bSPEECH BUBBLEbSQUARE BRACKETcBRACKET EXTENSIONdLOWER CORNERdUPPER CORNERdWITH DOUBLE STROKE",
   "eQUILLeSTROKEeTICK IN BOTTOM CORNERgTOP CORNEReUNDERBARbSUBSTITUTION BRACKETbTACK",
   "bTHIRD WHITE RIGHT POINTING INDEXbTHOUGHT BUBBLEbTHREE EIGHTHS BLOCKcQUARTERS BLOCK",
   "bTORTOISE SHELL BRACKETbTRANSPOSITION BRACKETbTRIANGLEbTRIANGLE ABOVE LEFT TRIANGLE",
   "bTRIANGULAR ONE QUARTER BLOCKbVERTICAL BAR WITH QUILLcBOX LINEbWHITE CORNER BRACKET",
   "cCURLY BRACKETcLENTICULAR BRACKETcPARENTHESIScSQUARE BRACKETcTORTOISE SHELL BRACKET",
   "bWIGGLY FENCEaRIGHT-FACING ARMENIAN ETERNITY SIGNcFISTcSVASTI SIGNdSIGN WITH DOTS",
   "bHANDED INTERLACED PENTAGRAMbPOINTING ANGLE BRACKETcCURVED ANGLE BRACKET",
   "cDOUBLE ANGLE QUOTATION MARKcMAGNIFYING GLASSbSHADED WHITE RIGHTWARDS ARROW",
   "bSIDE ARC CLOCKWISE ARROWbTO-LEFT EMBEDDINGdISOLATEdMARKdOVERRIDEaRIGHTHAND INTERIOR PRODUCT",
   "aRIGHTWARDS ARROWbARROW ABOVE ALMOST EQUAL TOdREVERSE ALMOST EQUAL TOeTILDE OPERATOR",
   "dSHORT LEFTWARDS ARROWdTILDE OPERATORcAND UPPER AND LOWER ONE EIGHTH BLOCKcFROM BAR",
   "dBAR TO BLACK DIAMONDcOVER LEFTWARDS ARROWcTHROUGH GREATER-THANdSUPERSETdXcTO BARdBLACK DIAMOND",
   "cWITH CORNER DOWNWARDSdDOTTED STEMdDOUBLE VERTICAL STROKEdEQUILATERAL ARROWHEADdHOOK",
   "dLARGE TRIANGLE ARROWHEADdLOOPdMEDIUM TRIANGLE ARROWHEADdNOTCHED TAILdPLUS BELOW",
   "dSMALL EQUILATERAL ARROWHEADeTRIANGLE ARROWHEADdSTROKEdTAILdTAIL WITH DOUBLE VERTICAL STROKE",
   "fVERTICAL STROKEdTIP DOWNWARDSeUPWARDSdVERTICAL STROKEbARROW-TAIL",
   "bBACK-TILTED SHADOWED WHITE ARROWbBLACK ARROWcCIRCLED WHITE ARROWbBOTTOM SHADED WHITE ARROW",
   "bCOMPRESSED ARROWbDASHED ARROWbDOUBLE ARROWcARROW FROM BARdWITH STROKEeVERTICAL STROKE",
   "cARROW-TAILcDASH ARROWbFINGER-POST ARROWbFRONT-TILTED SHADOWED WHITE ARROWbHAND",
   "bHARPOON OVER LEFTWARDS HARPOONcWITH BARB DOWN ABOVE LEFTWARDS HARPOON WITH BARB DOWN",
   "fBELOW LONG DASHfFROM BARfTO BAReDOWNWARDSeUP ABOVE LEFTWARDS HARPOON WITH BARB UPgLONG DASH",
   "gRIGHTWARDS HARPOON WITH BARB DOWNfFROM BARfTO BAReUPWARDSbHEAVY ARROWcCOMPRESSED ARROW",
   "bLEFT-SHADED WHITE ARROWbOPEN-HEADED ARROWbPAIRED ARROWSbQUADRUPLE ARROW"]

def fourthPart : List String :=
  ["bRIGHT-SHADED WHITE ARROWbROCKETbSANS-SERIF ARROWbSQUARED ARROWbSQUIGGLE ARROW",
   "bTOP SHADED WHITE ARROWbTRIANGLE ARROWHEADbTRIANGLE-HEADED ARROW",
   "dARROW OVER LEFTWARDS TRIANGLE-HEADED ARROWeTO BAReWITH BOLD SHAFTfDOUBLE HORIZONTAL STROKE",
   "gVERTICAL STROKEfHEAVY SHAFTfLONG TIP DOWNWARDShUPWARDSfMEDIUM SHAFTfNARROW SHAFT",
   "fVERY HEAVY SHAFTdDASHED ARROWdPAIRED ARROWSbTRIPLE ARROWcDASH ARROWbTWO HEADED ARROW",
   "bTWO-HEADED ARROW FROM BAReWITH DOUBLE VERTICAL STROKEfTAILfTAIL WITH DOUBLE VERTICAL STROKE",
   "hVERTICAL STROKEfTRIANGLE ARROWHEADSfVERTICAL STROKEdTRIPLE DASH ARROWbWAVE ARROWbWHITE ARROW",
   "cARROW FROM WALLdWITHIN TRIANGLE ARROWHEADaRINGaRING ABOVEbBUOYbEQUAL TObIN EQUAL TObOPERATOR",
   "bPOINTaRINGED PLANETaRINGING BELLaRISING DIAGONAL CROSSING FALLING DIAGONALdSOUTH EAST ARROW",
   "aRLEaRLIaRLMaRLOaROASTED SWEET POTATOaROBOT FACEaROCKaROCKETaROLL OF PAPERaROLLED-UP NEWSPAPER",
   "aROLLER COASTERbSKATEaROLLING ON THE FLOOR LAUGHINGaROMAN AS SIGNbCENTURIAL SIGNbDENARIUS SIGN",
   "bDIMIDIA SEXTULA SIGNbDUPONDIUS SIGNbNUMERAL EIGHTcELEVENcFIFTYcFIFTY EARLY FORMdTHOUSANDcFIVE",
   "cFIVE HUNDREDdTHOUSANDcFOURcNINEcONEcONE HUNDREDdHUNDRED THOUSANDdTHOUSANDdTHOUSAND C D",
   "cREVERSED ONE HUNDREDcSEVENcSIXcSIX LATE FORMcTENcTEN THOUSANDcTHREEcTWELVEcTWObQUINARIUS SIGN",
   "bSEMUNCIA SIGNbSESTERTIUS SIGNbSEXTANS SIGNbSEXTULA SIGNbSILIQUA SIGNbUNCIA SIGNaROOSTERaROSE",
   "aROSETTEaROTATED CAPITAL QbFLORAL HEART BULLETbHEAVY BLACK HEART BULLET",
   "bLIGHT FOUR POINTED BLACK CUSPbWHITE FOUR POINTED CUSPaROUND PUSHPINbTARGET",
   "aROUNDED SYMBOL FOR CAIdFUdLUdSHOUdSHUANGXIdXIaROWBOATaRSaRUBLE SIGNaRUGBY FOOTBALL",
   "aRULE-DELAYEDaRUMI DIGIT EIGHTcFIVEcFOURcNINEcONEcSEVENcSIXcTHREEcTWObFRACTION ONE HALFdQUARTER",
   "dTHIRDcTWO THIRDSbNUMBER EIGHT HUNDREDcEIGHTYcFIFTYcFIVE HUNDREDcFORTYcFOUR HUNDRED",
   "cNINE HUNDREDcNINETYcONE HUNDREDcSEVEN HUNDREDcSEVENTYcSIX HUNDREDcSIXTYcTENcTHIRTY",
   "cTHREE HUNDREDcTWENTYcTWO HUNDREDaRUNIC ARLAUG SYMBOLbBELGTHOR SYMBOLbCROSS PUNCTUATION",
   "bLETTER AC AcAESCcALGIZ EOLHXcANSUZ AcBERKANAN BEORC BJARKAN BcCcCALCcCEALCcCENcCWEORTHcD",
   "cDAGAZ DAEG DcDOTTED-LdNdPcEcEARcEHWAZ EH EcENGcETHcFEHU FEOH FE FcFRANKS CASKET ACeAESCeEHeIS",
   "eOScGcGARcGEBO GYFU GcGERcHAEGL HcHAGLAZ HcICELANDIC-YRcINGcINGWAZcIORcISAZ IS ISS IcIWAZ EOH",
   "cJERAN JcKcKAUN KcKAUNAcLAUKAZ LAGU LOGR LcLONG-BRANCH-AR AEeHAGALL HeMADR MeOSS OeYR",
   "cMANNAZ MAN McNAUDIZ NYD NAUD NcOcOEcONcOOcOPEN-PcOS OcOTHALAN ETHEL OcPERTHO PEORTH PcQ",
   "cRAIDO RAD REID RcSHcSHORT-TWIG-AR AeBJARKAN BeHAGALL HeMADR MeNAUD NeOSS OeSOL SeTYR TeYR",
   "cSIGEL LONG-BRANCH-SOL ScSOWILO ScSTANcTHURISAZ THURS THORNcTIWAZ TIR TYR TcURUZ UR UcVcW",
   "cWUNJO WYNN WcXcYcYRcZbMULTIPLE PUNCTUATIONbSINGLE PUNCTUATIONbTVIMADUR SYMBOLaRUNNER",
   "aRUNNING SHIRT WITH SASHaRUPEE SIGNaRUSSIAN ASTROLOGICAL SYMBOL BINOVILEdNOVILEdQUINTILE",
   "dSENTAGONdTREDECILEdVIGINTILEaS IN TRIANGLEaSAFETY PINbVESTaSAGITTARIUSaSAILBOAT",
   "aSAKE BOTTLE AND CUPaSALT SHAKERaSALTIREaSALUTING FACEaSAMARITAN ABBREVIATION MARKbLETTER ALAF",
   "cBAAcBITcDALATcFIcGAMANcINcITcIYcKAAFcLABATcMIMcNUNcQUFcRISHcSHANcSINGAATcTAAFcTITcTSAADIYcYUT",
   "cZENbMARK DAGESHcEPENTHETIC YUTcINcIN-ALAFcNEQUDAAcOCCLUSIONbMODIFIER LETTER EPENTHETIC YUTdI",
   "dSHORT AbPUNCTUATION AFSAAQcANGEDcANNAAUcARKAANUcATMAAUcBAUcMELODIC QITSAcNEQUDAAcQITSA",
   "cSHIYYAALAAcSOF MASHFAATcTURUcZAEFcZIQAAbVOWEL SIGN AdAAdEdIdLONG AeAAeEeIeUdOdOVERLONG AeAA",
   "dSHORT AdSUKUNdUaSANDWICHaSANS-SERIF HEAVY DOUBLE COMMA QUOTATION MARK ORNAMENT",
   "eTURNED COMMA QUOTATION MARK ORNAMENTdLOW DOUBLE COMMA QUOTATION MARK ORNAMENT",
   "cINTERROBANG ORNAMENTaSARIaSATELLITEaSATELLITE ANTENNAaSATURNaSAURASHTRA CONSONANT SIGN HAARU",
   "bDANDAbDIGIT EIGHTcFIVEcFOURcNINEcONEcSEVENcSIXcTHREEcTWOcZERObDOUBLE DANDAbLETTER AcAAcAIcAU",
   "cBAcBHAcCAcCHAcDAcDDAcDDHAcDHAcEcEEcGAcGHAcHAcIcIIcJAcJHAcKAcKHAcLAcLLAcMAcNAcNGAcNNAcNYAcOcOO",
   "cPAcPHAcRAcSAcSHAcSSAcTAcTHAcTTAcTTHAcUcUUcVAcVOCALIC LdLLdRdRRcYAbSIGN ANUSVARAcCANDRABINDU",
   "cVIRAMAcVISARGAbVOWEL SIGN AAdAIdAUdEdEEdIdIIdOdOOdUdUUdVOCALIC LeLLeReRRaSAUROPODaSAXOPHONE",
   "aSCALESaSCARFaSCHOOLaSCHOOL SATCHELaSCIaSCOOTERaSCORPIONaSCORPIUSaSCREENaSCREWDRIVER",
   "aSCRIPT CAPITAL BcEcFcHcIcLcMcPcRbLIGATURE ET ORNAMENTbSMALL EcGcLcOaSCROLLaSCRUPLEaSEALaSEAT",
   "aSECOND PLACE MEDALaSECTION SIGNaSECTORaSEDNAaSEE-NO-EVIL MONKEYaSEEDLINGaSEGMENT",
   "aSEGMENTED DIGIT EIGHTcFIVEcFOURcNINEcONEcSEVENcSIXcTHREEcTWOcZEROaSELFIEaSEMICOLON",
   "aSEMIDIRECT PRODUCT WITH BOTTOM CLOSEDaSEMISEXTILEaSEPARATED SYMBOL",
   "aSERIOUS FACE WITH SYMBOLS COVERING MOUTHaSERVICE MARKaSESAME DOTaSESQUIQUADRATEaSET MINUS",
   "bTRANSMIT STATEaSEWING NEEDLEaSEXTILEaSGCaSHADOWED WHITE CIRCLEcLATIN CROSScSTAR",
   "aSHALLOW PAN OF FOODaSHAMROCKaSHARADA ABBREVIATION SIGNbCONTINUATION SIGNbDANDAbDIGIT EIGHT",
   "cFIVEcFOURcNINEcONEcSEVENcSIXcTHREEcTWOcZERObDOUBLE DANDAbEKAMbEXTRA SHORT VOWEL MARK",
   "bHEADSTROKEbLETTER AcAAcAIcAUcBAcBHAcCAcCHAcDAcDDAcDDHAcDHAcEcGAcGHAcHAcIcIIcJAcJHAcKAcKHAcLA",
   "cLLAcMAcNAcNGAcNNAcNYAcOcPAcPHAcRAcSAcSHAcSSAcTAcTHAcTTAcTTHAcUcUUcVAcVOCALIC LdLLdRdRRcYAbOM",
   "bSANDHI MARKbSECTION MARK-1d2bSEPARATORbSIGN ANUSVARAcAVAGRAHAcCANDRABINDUcINVERTED CANDRABINDU",
   "cJIHVAMULIYAcNUKTAcSIDDHAMcUPADHMANIYAcVIRAMAcVISARGAbSUTRA MARKbVOWEL MODIFIER MARKcSIGN AAdAI",
   "dAUdEdIdIIdOdPRISHTHAMATRA EdUdUUdVOCALIC LeLLeReRRaSHARKaSHAVED ICEaSHAVIAN LETTER ADOcAGEcAH",
   "cAIRcAREcARRAYcASHcAWEcBIBcCHURCHcDEADcEARcEATcEGGcERRcFEEcGAGcHA-HAcHUNGcIANcICEcIFcJUDGEcKICK",
   "cLOLLcMEASUREcMIMEcNUNcOAKcOILcONcOOZEcORcOUTcPEEPcROARcSOcSUREcTHEYcTHIGHcTOTcUPcVOWcWOEcWOOL",
   "cYEAcYEWcZOOaSHEEPaSHIELDaSHIFT INbOUTaSHINTO SHRINEaSHIPaSHOCKED FACE WITH EXPLODING HEAD",
   "aSHOOTING STARaSHOPPING BAGSbTROLLEYaSHORT BACKSLANTED SOUTH ARROW",
   "bBENT ARROW POINTING DOWNWARDS THEN NORTH EASTbDOWN TACKcTACK WITH OVERBARbLEFT TACK",
   "bRIGHTWARDS ARROW ABOVE LEFTWARDS ARROWbSLANTED NORTH ARROWbUP TACKcTACK ABOVE SHORT DOWN TACK",
   "dWITH UNDERBARaSHORTCAKEaSHORTHAND FORMAT CONTINUING OVERLAPcDOWN STEPcLETTER OVERLAPcUP STEP",
   "aSHORTSaSHOULDERED OPEN BOXaSHOWERaSHRIMPaSHRUGaSHUFFLE PRODUCTaSHYaSIaSIDDHAM DANDA",
   "bDOUBLE DANDAbEND OF TEXT MARKbLETTER AcAAcAIcALTERNATE UcAUcBAcBHAcCAcCHAcDAcDDAcDDHAcDHAcEcGA",
   "cGHAcHAcIcIIcJAcJHAcKAcKHAcLAcMAcNAcNGAcNNAcNYAcOcPAcPHAcRAcSAcSHAcSSAcTAcTHA",
   "cTHREE-CIRCLE ALTERNATE IcTTAcTTHAcTWO-CIRCLE ALTERNATE IfIIcUcUUcVAcVOCALIC LdLLdRdRRcYA",
   "bREPETITION MARK-1d2d3bSECTION MARK DOUBLE RINGeRING WITH RAYSdWITH CIRCLES AND FOUR ENCLOSURES",
   "gRAYSgTWO ENCLOSURESeDOUBLE CRESCENTSeQUADRUPLE CRESCENTSeRAYS AND DOTTED CRESCENTS",
   "hDOUBLE CRESCENTShTRIPLE CRESCENTSeSEPTUPLE CRESCENTSeTRIDENT AND DOTTED CRESCENTS",
   "gU-SHAPED ORNAMENTSeTRIPLE CRESCENTSbSEPARATOR BARcDOTbSIGN ANUSVARAcCANDRABINDUcNUKTAcSIDDHAM",
   "cVIRAMAcVISARGAbVOWEL SIGN AAdAIdALTERNATE UeUUdAUdEdIdIIdOdUdUUdVOCALIC ReRR",
   "aSIDEWAYS BLACK DOWN POINTING INDEXcLEFT POINTING INDEXcRIGHT POINTING INDEXcUP POINTING INDEX",
   "bWHITE DOWN POINTING INDEXcLEFT POINTING INDEXcRIGHT POINTING INDEXcUP POINTING INDEX",
   "aSIGN OF THE HORNSaSIGNWRITING AIR BLOW SMALL ROTATIONScBLOWING OUTcSUCK SMALL ROTATIONS",
   "cSUCKING INbBREATH EXHALEcINHALEbBRUSH BETWEENcMULTIPLEcSINGLEbCHEEKS NEUTRALcPUFFEDcSUCKED",
   "bCOLONbCOMMAbDREAMY EYEBROWS DOWN NEUTRALdNEUTRAL DOWNeUPdUP NEUTRALbDYNAMIC ARROWHEAD LARGE",
   "dSMALLcEVERY OTHER TIMEcFASTcGRADUALcRELAXEDcSIMULTANEOUScSIMULTANEOUS ALTERNATINGcSLOWcTENSE",
   "bEARSbEXCITEMENTbEYE BLINK MULTIPLEdSINGLEcWINKbEYEBROWS STRAIGHT DOWNdNEUTRALdUP",
   "bEYEGAZE-FLOORPLANE CURVEDdSTRAIGHTdSTRAIGHT ALTERNATINGeDOUBLEcWALLPLANE CIRCLINGdCURVED",
   "dSTRAIGHTdSTRAIGHT ALTERNATINGeDOUBLEbEYELASHES DOWNcFLUTTERINGcUPbEYES CLOSEDcHALF CLOSEDdOPEN",
   "cOPENcSQUEEZEDcWIDE OPENcWIDENING MOVEMENTbFACE DIRECTION POSITION NOSE FORWARD TILTING",
   "fUP OR DOWNhDOWN TILTINGbFILL MODIFIER-2d3d4d5d6bFINGERbFLICK LARGE MULTIPLEdSINGLEcSEQUENTIAL",
   "cSMALL MULTIPLEdSINGLEbFLOORPLANE SHOULDER HIP MOVEbFOREHEAD CONTACTcNEUTRALcWRINKLEDbFULL STOP",
   "bGRASP BETWEENcMULTIPLEcSINGLEbHAIRbHAND-ANGLEcANGLE INDEXdINDEX MIDDLE LITTLEfRINGeRING LITTLE",
   "fLITTLE OUTeTHUMBeTHUMB INfOUTdLITTLE INDEXeINDEX THUMB INDEX THUMBhTHUMB OUTeUP",
   "dMIDDLE RING LITTLEfLITTLE INgOUTdRING DOWN MIDDLE THUMB INDEX CROSSeLITTLEcCIRCLEcCIRCLE INDEX",
   "dINDEX BENTeHINGEeMIDDLEeMIDDLE CROSS LITTLEfCROSSEDfLITTLEfRINGfTHUMBeRING LITTLEdLITTLE INDEX",
   "eUPdMIDDLE RING LITTLEfLITTLE BENTeUPdRING LITTLEcCLAWcCLAW FOUR FINGERS CONJOINED",
   "dINDEX THUMB CURVE THUMB INSIDEdMIDDLE RING LITTLE CONJOINEDgCONJOINED SIDEdNO THUMB",
   "dTHUMB FORWARDeSIDEcCUPcCUP FIVE FINGERS SPREADfSPREAD OPENdINDEXdINDEX RING LITTLEeTHUMB",
   "eTHUMB OPENdMIDDLE RING LITTLEdNO THUMBdOPENdOPEN NO THUMBeTHUMB FORWARDfSIDEdTHUMB FORWARD",
   "eSIDEcCURLICUEcCURLICUE INDEX RING LITTLE ONdMIDDLE RING LITTLE ONdOPENcFIST",
   "cFIST FOUR FINGERS CONJOINED BENTdHEELdINDEXdINDEX BENTeBENT OVER MIDDLEeCUPPEDeHINGED",
   "eHINGED LOWfMIDDLE UPgUP THUMB SIDEeMIDDLEeMIDDLE BENTfBENT THUMB STRAIGHTfCONJOINED",
   "fCONJOINED CUPPEDgCUPPED THUMB FORWARDgHINGEDgHINGED THUMB SIDEgINDEX BENTgMIDDLE BENT",
   "gTHUMB FORWARDhSIDEhSIDE BENTiCONJOINEDfCROSS LITTLEfCROSSEDfCROSSED THUMB SIDEfHINGED",
   "fHINGED SPREAD THUMB SIDEfLITTLEfRAISED KNUCKLESfRINGfRING BENTgCONJOINEDfSTRAIGHT THUMB BENT",
   "fTHUMBfTHUMB ANGLEDgANGLED OUTgBENTgCIRCLEDgCONJOINED HINGEDgCUPPEDgHINGEDgHOOKED",
   "fUP SPREAD THUMB FORWARDeRAISED KNUCKLEeRING LITTLEeTHUMB ANGLED IN MIDDLE UPgOUT MIDDLE UP",
   "fCIRCLEfCIRCLED MIDDLE UPfCUPPED MIDDLE UPfCURLICUEfCURVE THUMB INSIDEhUNDERfFORWARD INDEX BENT",
   "hSTRAIGHTfHOOKfHOOKED MIDDLE HINGEDhUPfSIDEfSIDE BOTH BENTgINDEX BENThHINGEgTHUMB BENT",
   "hCONJOINEDhDIAGONALeUP MIDDLE HINGEDgHINGED THUMB CONJOINEDiSIDEdLITTLE BENTeDOWN",
   "eDOWN OTHERS CIRCLEDfRIPPLE CURVEDgSTRAIGHTeINDEXeINDEX THUMBeRAISED KNUCKLEeTHUMB",
   "eTOUCHES THUMBeUPdMIDDLE BENT OVER INDEXeDOWNeLITTLEeRAISED KNUCKLEeRING LITTLE",
   "eTHUMB ANGLED INDEX UPgOUT INDEX CROSSEDiUPfCIRCLED INDEX HINGEDhUPfCUPPED INDEX UP",
   "fHOOKED INDEX UPfLITTLEeUPeUP THUMB SIDEdRING DOWNeINDEXeLITTLEeMIDDLEeMIDDLE CONJOINED",
   "fRAISED KNUCKLESeRAISED KNUCKLEeTHUMBeUPdTHUMBdTHUMB BETWEEN INDEX MIDDLEgMIDDLE STRAIGHT",
   "fMIDDLE RINGfRING LITTLEeFORWARDeHEELeOVER FOUR RAISED KNUCKLESfTWO FINGERSeSIDE BENTfCONJOINED",
   "fDIAGONALeUNDER FOUR FINGERSfINDEX BENTfLITTLE UPfTHREE FINGERSfTWO FINGERScFLAT",
   "cFLAT BETWEEN PALM FACINGSdFIVE FINGERS SPREADfSPREAD BENTgFOUR BENTgHINGEDgHINGED NO THUMB",
   "hTHUMB SIDEgTHUMB FORWARDdFOUR FINGERSeFINGERS BENTfCONJOINEDfCONJOINED SPLITfHINGEDdHEEL",
   "dHEEL FIVE FINGERS SPREADgSPREAD BENThFOUR BENTeTHUMB SIDEdSPLIT CENTREeCENTRE THUMB SIDE",
   "gSIDE BENTeINDEX THUMB SIDEeLITTLEdTHUMB BENTeFORWARDeSIDEcHINGEcHINGE FIVE FINGERS SPREAD OPEN",
   "dFOUR FINGERS CONJOINEDdINDEXdINDEX HINGEDeMIDDLE LITTLEfRINGfRING CONJOINEDeRING LITTLEeTHUMB",
   "eTHUMB LARGEfOPENfSIDEfSMALLdLITTLEdLITTLE INDEXeINDEX THUMBeTHUMBdMIDDLEdMIDDLE RING LITTLE",
   "dNO THUMBdOPENdOPEN NO THUMBeTHUMB FORWARDfSIDEdRINGdRING DOWN INDEX THUMB HOOK MIDDLEdSMALL",
   "dTHUMB BETWEEN MIDDLE RINGeSIDEeSIDE TOUCHING INDEXcHOOKcHOOK CURLICUEdINDEX RING LITTLE INgOUT",
   "gUNDERdMIDDLE RING LITTLE CONJOINEDgCONJOINED INhOUTeTHUMBdRING THUMBcOVAL",
   "cOVAL FIVE FINGERS SPREADdINDEXdLITTLE UPdNO THUMBdRING LITTLEdTHUMB FORWARDeSIDEbHEAD",
   "bHEAD MOVEMENT CIRCLEcMOVEMENT-FLOORPLANE CURVEeSTRAIGHTdWALLPLANE CURVEeSTRAIGHTeTILTcRIM",
   "bLIMB COMBINATIONcLENGTH-1d2d3d4d5d6d7bLIP LOWER OVER UPPERcUPPER OVER LOWER",
   "bLIPS PRESSED TOGETHERbLOCATION DEPTHcHEAD NECKcHEIGHTcLIMBS DIGITScTORSOcWIDTH",
   "bLOCATION-FLOORPLANE SPACEcWALLPLANE SPACEbMOUTH CLOSED CONTACTdFORWARDdNEUTRALcCORNERScFROWN",
   "cFROWN OPENdWRINKLEDcKISScKISS FORWARDdWRINKLEDcOPEN CIRCLEdFORWARDdOVALdOVAL WRINKLEDeYAWN",
   "dRECTANGLEdRECTANGLE WRINKLEDeYAWNdWRINKLEDcSMILEcSMILE OPENdWRINKLEDcTENSEcTENSE FORWARD",
   "dSUCKEDcWRINKLES DOUBLEdSINGLEbMOVEMENT-DIAGONAL AWAY LARGEeLARGESTeMEDIUMeSMALL",
   "dBETWEEN AWAY LARGEfLARGESTfMEDIUMfSMALLeTOWARDS LARGEfLARGESTfMEDIUMfSMALLdTOWARDS LARGE",
   "eLARGESTeMEDIUMeSMALLcFLOORPLANE ARM CIRCLE HITTING WALL LARGE DOUBLEiSINGLEhMEDIUM DOUBLE",
   "iSINGLEhSMALL DOUBLEiSINGLEdBENDdBOX LARGEeMEDIUMeSMALLdCHECKdCORNER LARGEeMEDIUMeSMALLdCROSS",
   "dCURVE COMBINEDeHITTING CEILING LARGEgSMALLfFLOOR LARGEgSMALLeLARGEeLARGESTeMEDIUMeSMALL",
   "dDOUBLE ALTERNATINGeALTERNATING WRIST FLEXeSTRAIGHTeWRIST FLEX",
   "dFINGER CIRCLES HITTING WALL DOUBLEhSINGLEeCONTACTdHUMP HITTING CEILING LARGE DOUBLEhTRIPLE",
   "gSMALL DOUBLEhTRIPLEfFLOOR LARGE DOUBLEgSMALL DOUBLEgTRIPLE LARGE TRIPLEhSMALL TRIPLEeSMALLdJAW",
   "dLOOP HITTING CEILING LARGE DOUBLEhSINGLEgSMALL DOUBLEhSINGLEfFLOOR LARGE DOUBLEhSINGLE",
   "gSMALL DOUBLEhSINGLEeSMALLdPEAKS LARGEeMEDIUMeSMALLdSHAKING PARALLELdSINGLE STRAIGHT LARGE",
   "fLARGESTfMEDIUMfSMALLeWRIST FLEXdTRIPLE ALTERNATING MOVEMENTfWRIST FLEXeSTRAIGHT MOVEMENT",
   "eWRIST FLEXdWAVE HITTING CEILING LARGEgSMALLfFLOOR LARGEgSMALLeLARGEeSMALLeSNAKE",
   "dWRIST CIRCLE HITTING WALL DOUBLEhSINGLEdZIGZAG LARGEeMEDIUMeSMALLcHINGE DOWN SEQUENTIAL",
   "dSIDE TO SIDE SCISSORSdUP DOWN ALTERNATING LARGEgSMALLfLARGEfSMALLeSEQUENTIAL",
   "cWALLPLANE ARM CIRCLE MEDIUM DOUBLEgSINGLEfSMALL DOUBLEgSINGLEdBEND LARGEeMEDIUMeSMALL",
   "dBOX LARGEeMEDIUMeSMALLdCHECK LARGEeMEDIUMeSMALLdCORNER LARGEeMEDIUMeROTATIONeSMALLdCROSS",
   "dCURVE HALF-CIRCLE LARGEgLARGESTgMEDIUMgSMALLeHITTING CHESTfFRONT WALLeQUARTER LARGEfLARGEST",
   "fMEDIUMfSMALLeTHEN STRAIGHTeTHREE-QUARTER CIRCLE MEDIUMhSMALLdCURVED CROSS MEDIUMfSMALL",
   "dDOUBLE ALTERNATINGeALTERNATING WRIST FLEXeSTRAIGHTeWRIST FLEXdFINGER CIRCLES DOUBLEfSINGLE",
   "eCONTACTdHUMP HITTING CHESTfFRONT WALLeLARGEeMEDIUMeSMALLdJAWdLOOP HITTING CHESTfFRONT WALL",
   "eLARGEeMEDIUMeSMALLeSMALL DOUBLEdPEAKS LARGEeMEDIUMeSMALLdSHAKINGdSINGLE STRAIGHT LARGEfLARGEST",
   "fMEDIUMfSMALLeWRIST FLEXdTRIPLE ALTERNATINGeALTERNATING WRIST FLEXeSTRAIGHT MOVEMENTeWRIST FLEX",
   "dWAVE CURVE DOUBLE LARGEgMEDIUMgSMALLfTRIPLE LARGEgMEDIUMgSMALLeDIAGONAL PATH LARGEgMEDIUM",
   "gSMALLeHITTING CHESTfFRONT WALLdWRIST CIRCLE FRONT DOUBLEgSINGLEdZIGZAG LARGEeMEDIUMeSMALLbNECK",
   "bNOSE CONTACTcNEUTRALcWIGGLEScWRINKLESbPARENTHESISbROTATION MODIFIER-10d11d12d13d14d15d16d2d3d4",
   "d5d6d7d8d9bROTATION-FLOORPLANE ALTERNATINGdALTERNATING HITTING CEILINGfFLOORdDOUBLE",
   "dDOUBLE HITTING CEILINGfFLOORdSINGLEdSINGLE HITTING CEILINGfFLOORcWALLPLANE ALTERNATE",
   "dALTERNATING HITTING CHESTfFRONT WALLdDOUBLEdDOUBLE HITTING CHESTfFRONT WALLdSINGLE",
   "dSINGLE HITTING CHESTfFRONT WALLbRUB BETWEENcMULTIPLEcSINGLEbSEMICOLONbSHOULDER HIP POSITIONS",
   "dSPINEcTILTING FROM WAISTbSQUEEZE FLICK ALTERNATINGcLARGE MULTIPLEdSINGLEcSEQUENTIAL",
   "cSMALL MULTIPLEdSINGLEbSTRIKE BETWEENcMULTIPLEcSINGLEbSURFACE BETWEENcSYMBOLSbTEETH",
   "bTEETH BITE LIPScMOVEMENTcON LIPSdLIPS MOVEMENTdTONGUEdTONGUE MOVEMENTbTENSE CHEEKS HIGHdLOW",
   "dMIDDLEbTONGUE CENTRE INSIDE MOUTHdSTICKING OUTcINSIDE MOUTH RELAXEDcLICKING LIPS",
   "cMOVES AGAINST CHEEKcSTICKING OUT FARcTIP BETWEEN LIPSdTOUCHING INSIDE MOUTH",
   "bTORSO-FLOORPLANE TWISTINGcWALLPLANE CURVED BENDdSTRAIGHT STRETCHbTOUCH BETWEENcMULTIPLEcSINGLE",
   "bTRAVEL-FLOORPLANE ROTATION-FLOORPLANE ALTERNATINGfDOUBLEfSINGLEeWALLPLANE ALTERNATINGfDOUBLE",
   "fSINGLEdSHAKINGcWALLPLANE ARM SPIRAL DOUBLEfSINGLEfTRIPLEdROTATION-FLOORPLANE ALTERNATING",
   "fDOUBLEfSINGLEeWALLPLANE ALTERNATINGfDOUBLEfSINGLEdSHAKINGbUPPER BODY TILTING FROM HIP JOINTS",
   "bWALLPLANE SHOULDER HIP MOVEaSILHOUETTE OF JAPANaSIMILAR ABOVE GREATER-THAN ABOVE EQUALS SIGN",
   "cLESS-THAN ABOVE EQUALS SIGNbMINUS SIMILARbOR GREATER-THANcLESS-THANaSINE WAVE",
   "aSINGLE CHARACTER INTRODUCERbGRAPHIC CHARACTER INTRODUCERbHIGH-REVERSED-9 QUOTATION MARK",
   "bLEFT-POINTING ANGLE QUOTATION MARKbLOW-9 QUOTATION MARKbRIGHT-POINTING ANGLE QUOTATION MARK",
   "bSHIFT THREEcTWOaSINGLE-SHIFT-2c3aSINHALA ARCHAIC DIGIT EIGHTdFIVEdFOURdNINEdONEdSEVENdSIX",
   "dTHREEdTWOcNUMBER EIGHTYdFIFTYdFORTYdNINETYdONE HUNDREDeTHOUSANDdSEVENTYdSIXTYdTENdTHIRTY",
   "dTWENTYbLETTER AAYANNAcAEEYANNAcAEYANNAcAIYANNAcALPAPRAANA BAYANNAdCAYANNAdDAYANNAdDDAYANNA",
   "dGAYANNAdJAYANNAdKAYANNAdPAYANNAdTAYANNAdTTAYANNAcAMBA BAYANNAcAUYANNAcAYANNAcDANTAJA LAYANNA",
   "dNAYANNAdSAYANNAcEEYANNAcEYANNAcFAYANNAcHAYANNAcIIYANNAcILUUYANNAcILUYANNAcIRUUYANNAcIRUYANNA",
   "cIYANNAcKANTAJA NAASIKYAYAcMAHAAPRAANA BAYANNAdCAYANNAdDAYANNAdDDAYANNAdGAYANNAdJAYANNAdKAYANNA",
   "dPAYANNAdTAYANNAdTTAYANNAcMAYANNAcMUURDHAJA LAYANNAdNAYANNAdSAYANNAcOOYANNAcOYANNAcRAYANNA",
   "cSANYAKA DAYANNAdDDAYANNAdGAYANNAdJAYANNAcTAALUJA NAASIKYAYAdSANYOOGA NAAKSIKYAYAdSAYANNA",
   "cUUYANNAcUYANNAcVAYANNAcYAYANNAbLITH DIGIT EIGHTdFIVEdFOURdNINEdONEdSEVENdSIXdTHREEdTWOdZERO",
   "bPUNCTUATION KUNDDALIYAbSIGN AL-LAKUNAcANUSVARAYAcCANDRABINDUcVISARGAYAbVOWEL SIGN AELA-PILLA",
   "dDIGA AEDA-PILLAeGAETTA-PILLAeGAYANUKITTAeIS-PILLAeKOMBUVAePAA-PILLAdGAETTA-PILLAdGAYANUKITTA",
   "dKETTI AEDA-PILLAeIS-PILLAePAA-PILLAdKOMBU DEKAdKOMBUVAdKOMBUVA HAA AELA-PILLAfDIGA AELA-PILLA",
   "fGAYANUKITTAaSIX PETALLED BLACK AND WHITE FLORETTEbPOINTED BLACK STARcPINWHEEL STAR",
   "cSTAR WITH MIDDLE DOTaSIX-PER-EM SPACEaSIXTEEN POINTED ASTERISKaSKATEBOARDaSKI AND SKI BOOT",
   "aSKIERaSKULLaSKULL AND CROSSBONESaSKUNKaSLANTED EQUAL TO OR GREATER-THANfTHAN WITH DOT INSIDE",
   "eLESS-THANfTHAN WITH DOT INSIDEbNORTH ARROW WITH HOOKED HEADeHORIZONTAL TAILaSLAVONIC ASTERISK",
   "aSLEDaSLEEPING ACCOMMODATIONbFACEbSYMBOLaSLEEPY FACEaSLEUTH OR SPYaSLICE OF PIZZA",
   "aSLIGHTLY FROWNING FACEbSMILING FACEaSLOPEaSLOPING LARGE ANDcORaSLOT MACHINEaSLOTH",
   "aSMALL AIRPLANEbAMPERSANDbASTERISKbBLUE DIAMONDbCOLONbCOMMAbCOMMERCIAL ATbCONTAINS AS MEMBER",
   "cWITH OVERBARdVERTICAL BAR AT END OF HORIZONTAL STROKEbDOLLAR SIGNbELEMENT OFcOF WITH OVERBAR",
   "eVERTICAL BAR AT END OF HORIZONTAL STROKEbEM DASHbEQUALS SIGNbEXCLAMATION MARKbFULL STOP",
   "bGREATER-THAN SIGNbHYPHEN-MINUSbIDEOGRAPHIC COMMAbLEFT CURLY BRACKETcPARENTHESIS",
   "cTORTOISE SHELL BRACKETbLESS-THAN SIGNbNUMBER SIGNbORANGE DIAMONDbPERCENT SIGNbPLUS SIGN",
   "bQUESTION MARKbREVERSE SOLIDUSbRIGHT CURLY BRACKETcPARENTHESIScTORTOISE SHELL BRACKET",
   "bROMAN NUMERAL EIGHTdELEVENdFIFTYdFIVEdFIVE HUNDREDdFOURdNINEdONEdONE HUNDREDeTHOUSANDdSEVEN",
   "dSIXdTENdTHREEdTWELVEdTWObSEMICOLONbTILDEbTWO DOTS OVER ONE DOT PUNCTUATIONbVEE WITH UNDERBAR",
   "aSMALLER THANbTHAN OR EQUAL TOaSMASH PRODUCTaSMILEaSMILING CAT FACE WITH HEART-SHAPED EYES",
   "eOPEN MOUTHbFACE WITH HALOdHEART-SHAPED EYESdHORNSdOPEN MOUTHeMOUTH AND COLD SWEATgSMILING EYES",
   "gTIGHTLY-CLOSED EYESdSMILING EYESeEYES AND HAND COVERING MOUTHgTHREE HEARTSdSUNGLASSESdTEAR",
   "aSMIRKING FACEaSMOKING SYMBOLaSNAILaSNAKEaSNEEZING FACEaSNOW CAPPED MOUNTAINaSNOWBOARDER",
   "aSNOWFLAKEaSNOWMANaSNOWMAN WITHOUT SNOWaSOaSOCCER BALLaSOCKSaSOFT HYPHENbICE CREAM",
   "bSHELL FLOPPY DISKaSOFTBALLaSOFTWARE-FUNCTION SYMBOLaSOGDIAN COMBINING CURVE ABOVEdBELOW",
   "cDOT ABOVEdBELOWcHOOK ABOVEdBELOWcLONG HOOK BELOWcRESH BELOWcSTROKE BELOWcTWO DOTS ABOVEeBELOW",
   "bINDEPENDENT SHINbLETTER ALEPHcAYINcBETHcFETHcGIMELcHEcHETHcKAPHcLAMEDHcLESHcMEMcNUNcPE",
   "cRESH-AYINcSADHEcSAMEKHcSHINcTAWcWAWcYODHcZAYINbNUMBER ONEcONE HUNDREDcTENcTWENTY",
   "bPUNCTUATION CIRCLE WITH DOTcHALF CIRCLE WITH DOTcTWO CIRCLES WITH DOTSdVERTICAL BARS",
   "eBARS WITH DOTSaSOHaSOLID QUILT SQUARE ORNAMENTdORNAMENT IN BLACK SQUAREaSOLIDUS",
   "aSOLIDUS WITH OVERBARaSOM SIGNaSOON WITH RIGHTWARDS ARROW ABOVEaSORA SOMPENG DIGIT EIGHTdFIVE",
   "dFOURdNINEdONEdSEVENdSIXdTHREEdTWOdZEROcLETTER AHdBAHdCAHdDAHdEEHdEHdGAHdHAHdIHdJAHdKAHdLAHdMAE",
   "dMAHdNAHdNGAHdNYAHdOHdPAHdRAHdSAHdTAHdUHdVAHdYAHaSOSaSOUND RECORDING COPYRIGHTaSOUTH EAST ARROW",
   "cARROW AND SOUTH WEST ARROWdCROSSING NORTH EAST ARROWdTO CORNERdWITH HOOKcBLACK ARROW",
   "cDOUBLE ARROWcPOINTING BUDdLEAFdVINE LEAFcSANS-SERIF ARROWcTRIANGLE-HEADED ARROWeARROW TO BAR",
   "cWHITE ARROWbWEST ARROWcARROW AND NORTH WEST ARROWdWITH HOOKcBLACK ARROWcDOUBLE ARROW",
   "cPOINTING BUDdLEAFdVINE LEAFcSANS-SERIF ARROWcTRIANGLE-HEADED ARROWeARROW TO BARcWHITE ARROW",
   "aSOYOMBO CLUSTER-INITIAL LETTER LAeRAeSAeSHAbFINAL CONSONANT SIGN -AeBeDeGeKeLeMeNeNGeReSeSH",
   "bGEMINATION MARKbHEAD MARK WITH MOON AND SUNgSUN AND FLAMEiTRIPLE FLAMEbLETTER -AcAcBAcBHAcCA",
   "cCHAcDAcDDAcDDHAcDHAcDZAcGAcGHAcHAcJAcJHAcKAcKHAcKSSAcLAcMAcNAcNGAcNNAcNYAcPAcPHAcRAcSAcSHAcSSA",
   "cTAcTHAcTSAcTSHAcTTAcTTHAcVAcYAcZAcZHAbMARK DOUBLE SHADcPLUTAcSHADcTSHEGbSIGN ANUSVARA",
   "cJIHVAMULIYAcUPADHMANIYAcVISARGAbSUBJOINERbTERMINAL MARK-1d2bVOWEL LENGTH MARKcSIGN AIdAUdEdIdO",
   "dOEdUdUEdVOCALIC LeRaSPaSPAaSPACEaSPAGHETTIaSPARKLEaSPARKLESaSPARKLING HEART",
   "aSPEAK-NO-EVIL MONKEYaSPEAKERaSPEAKER WITH CANCELLATION STROKEcONE SOUND WAVEcTHREE SOUND WAVES",
   "aSPEAKING HEAD IN SILHOUETTEaSPEECH BALLOONaSPEEDBOATaSPESMILO SIGNaSPHERICAL ANGLE",
   "bANGLE OPENING LEFTdUPaSPIDERaSPIDER WEBaSPIRAL CALENDAR PADbNOTE PADbSHELL",
   "aSPLASHING SWEAT SYMBOLaSPONGEaSPOOL OF THREADaSPOONaSPORTS MEDALaSPOUTING WHALE",
   "aSQUARE A OVER MbAARUbAMbANPEAbAPAATObARUHUAbAUbBAARERUbBARbBEETAbBIRUbBORUTObBQbBUSSYERU",
   "bC OVER KGbCALbCAPbCCbCDbCMbCM CUBEDcSQUAREDbCObCORPORATIONbCUPbDAbDAASUbDBbDESIbDJbDLbDM",
   "bDM CUBEDcSQUAREDbDORUbEEKAAbERA NAME HEISEIdMEIZIdREIWAdSYOUWAdTAISYOUbERGbESUKUUDObEVbFMbFOOT",
   "bFOUR CORNERSbGALbGANMAbGARONbGBbGHZbGIGAbGINIIbGIRUDAAbGPAbGURAMUbGURAMUTONbGYbHAbHAITU",
   "bHEKUTAARUbHERUTUbHGbHIRAGANA HOKAbHONbHOONbHOORUbHPbHPAbHUARADDObHUIITObHURANbHZbIMAGE OF",
   "cOF OR EQUAL TOeNOT EQUAL TObINbININGUbINTIbIUbK OHMbKAbKAIRIbKARATTObKARORIIbKBbKCALbKEESUbKG",
   "bKHZbKIRObKIROGURAMUbKIROMEETORUbKIROWATTObKKbKLbKMbKM CAPITALcCUBEDcSQUAREDbKOOPObKORUNAbKPA",
   "bKTbKUROONEbKURUZEIRObKVbKWbKYURIIbLEFT OPEN BOX OPERATORbLMbLNbLOGbLOZENGEbLXbM CUBEDcOHM",
   "cOVER SdS SQUAREDcSQUAREDbMAbMAHHAbMAIKURObMAIRUbMANSYONbMARUKUbMBbMB SMALLbMEETORUbMEGA",
   "bMEGATONbMGbMHZbMIKURONbMILbMIRIbMIRIBAARUbMLbMMbMM CUBEDcSQUAREDbMOLbMPAbMSbMU AcFcGcLcMcScVcW",
   "bMVbMV MEGAbMWbMW MEGAbNAbNANObNFbNMbNOTTObNSbNVbNWbONSUbOOMUbORIGINAL OFcOF OR EQUAL TO",
   "eNOT EQUAL TObOVbPAbPA AMPSbPAASENTObPAATUbPCbPEEZIbPENIHIbPENSUbPESObPFbPHbPIASUTORUbPIKO",
   "bPIKURUbPMbPOINTObPONDObPOSITION INDICATORbPPMbPRbPSbPVbPWbRADbRAD OVER SdS SQUAREDbREMU",
   "bRENTOGENbRIGHT OPEN BOX OPERATORbRIRAbRITTORUbROOTbRUPIIbRUUBURUbSAIKURUbSANTIIMUbSENTIbSENTO",
   "bSIRINGUbSRbSVbTARGETbTHZbTONbUONbV OVER MbWATTObWBbWITH BOTTOM HALF BLACKcCONTOURED OUTLINE",
   "cDIAGONAL CROSSHATCH FILLcHORIZONTAL FILLcLEFT HALF BLACKcLOWER LEFT DIAGONAL HALF BLACK",
   "dRIGHT DIAGONAL HALF BLACKcORTHOGONAL CROSSHATCH FILLcRIGHT HALF BLACKcTOP HALF BLACK",
   "cUPPER LEFT DIAGONAL HALF BLACKeTO LOWER RIGHT FILLdRIGHT DIAGONAL HALF BLACK",
   "eTO LOWER LEFT FILLcVERTICAL FILLbYAADObYAARUbYUANaSQUARED ASTERISKbCJK UNIFIED IDEOGRAPH-4E00",
   "e4E09e4E2De4E8Ce4EA4e518De521De524De5272e53CCe53F3e5408e5439e55B6e58F0e591Ae5929e5B57e5DE6e5F8C",
   "e624Be6253e6295e6307e6355e6599e65B0e6620e6708e6709e6E80e6F14e7121e751Fe7533e7981e7A7Ae7D42e89E3",
   "e8CA9e8D70e904Ae914DbCLbCOOLbDOT OPERATORbEIGHT KbFALLING DIAGONAL SLASHbFIVE POINT ONE",
   "bFOUR DOT PUNCTUATIONcKbFREEbHCbHDRbHI-RESbHVbIDbKATAKANA DEcKOKOcSAbKEYbLATIN CAPITAL LETTER A",
   "eBeCeDeEeFeGeHeIeJeKeLeMeNeOePeQeReSeTeUeVeWeXeYeZcSMALL LETTER DbLOGICAL ANDcORbLOSSLESSbMINUS",
   "bMVbNEWbNGbOKbONE HUNDRED TWENTY PbPLUSbPPVbRISING DIAGONAL SLASHbSALTIREbSDbSECOND SCREEN",
   "bSEVEN POINT ONEbSHVbSIXTY PbSMALL CIRCLEbSOSbSQUAREbSSbTHREE DbTIMESbTWENTY-TWO POINT TWO",
   "bTWO KbUHDbUP WITH EXCLAMATION MARKbVODbVSbWCaSQUAT BLACK RIGHTWARDS ARROWaSQUIDaSS2aSS3aSSAaST",
   "aSTADIUMaSTAFF OF AESCULAPIUScHERMESaSTAMPED ENVELOPEaSTANDING PERSONaSTAR AND CRESCENTbEQUALS",
   "bOF DAVIDbOPERATORbWITH LEFT HALF BLACKcRIGHT HALF BLACKaSTART OF GUARDED AREAcHEADING",
   "cPROTECTED AREAcSELECTED AREAcSTRINGcTEXTaSTATIONaSTATUE OF LIBERTYaSTEAM LOCOMOTIVE",
   "aSTEAMING BOWLaSTENOGRAPHIC FULL STOPaSTETHOSCOPEaSTICK FIGUREbFIGURE LEANING LEFTdRIGHT",
   "cWITH ARMS RAISEDdDRESSaSTOCK CHARTaSTOPWATCHaSTRAIGHT RULERaSTRAIGHTNESSaSTRAWBERRY",
   "aSTRESS OUTLINED WHITE STARaSTRICTLY EQUIVALENT TOaSTRING TERMINATORaSTSaSTUDIO MICROPHONE",
   "aSTUFFED FLATBREADaSTUPAaSTXaSUBaSUBSCRIPT EIGHTbEQUALS SIGNbFIVEbFOURbLEFT PARENTHESISbMINUS",
   "bNINEbONEbPLUS SIGNbRIGHT PARENTHESISbSEVENbSIXbTHREEbTWObZEROaSUBSET ABOVE RIGHTWARDS ARROW",
   "cSUBSETcSUPERSETbOFbOF ABOVE ALMOST EQUAL TOdEQUALS SIGNdNOT EQUAL TOdTILDE OPERATOR",
   "cOR EQUAL TOeTO WITH DOT ABOVEcWITH NOT EQUAL TObWITH DOTcMULTIPLICATION SIGN BELOW",
   "cPLUS SIGN BELOWaSUBSTITUTEaSUCCEEDSaSUCCEEDS ABOVE ALMOST EQUAL TOcEQUALS SIGN",
   "cNOT ALMOST EQUAL TOdEQUAL TOcSINGLE-LINE EQUALS SIGNeNOT EQUAL TObBUT NOT EQUIVALENT TO",
   "bOR EQUAL TOcEQUIVALENT TObUNDER RELATIONaSUMMATION BOTTOMbTOPbWITH INTEGRALaSUN",
   "aSUN BEHIND CLOUDbWITH FACEaSUNDANESE AVAGRAHAbCONSONANT SIGN PAMINGKALdPANYAKRAdPANYIKU",
   "dPASANGAN MAeWAbDIGIT EIGHTcFIVEcFOURcNINEcONEcSEVENcSIXcTHREEcTWOcZERObLETTER AcAEcBAcBHAcCA",
   "cDAcEcEUcFAcFINAL KdMcGAcHAcIcJAcKAcKHAcLAcLEUcMAcNAcNGAcNYAcOcPAcQAcRAcREUcSAcSYAcTAcUcVAcWA",
   "cXAcYAcZAbPUNCTUATION BINDU BA SATANGAdCAKRAdDA SATANGAdKA SATANGAdLEU SATANGAdPANGLONGdPURNAMA",
   "dSURYAbSIGN PAMAAEHcPANGLAYARcPANGWISADcPANYECEKcVIRAMAbVOWEL SIGN PAMEPETdPANAELAENG",
   "dPANEULEUNGdPANGHULUdPANOLONGdPANYUKUaSUNFLOWERaSUNRISEaSUNRISE OVER MOUNTAINS",
   "aSUNSET OVER BUILDINGSaSUPERHEROaSUPERSCRIPT EIGHTbEQUALS SIGNbFIVEbFOURbLATIN SMALL LETTER IeN",
   "bLEFT PARENTHESISbMINUSbNINEbONEbPLUS SIGNbRIGHT PARENTHESISbSEVENbSIXbTHREEbTWObZERO",
   "aSUPERSET ABOVE LEFTWARDS ARROWcSUBSETcSUPERSETbBESIDE AND JOINED BY DASH WITH SUBSETcSUBSETbOF",
   "bOF ABOVE ALMOST EQUAL TOdEQUALS SIGNdNOT EQUAL TOdTILDE OPERATORcOR EQUAL TOeTO WITH DOT ABOVE",
   "cWITH NOT EQUAL TObPRECEDING SOLIDUSbWITH DOTcMULTIPLICATION SIGN BELOWcPLUS SIGN BELOW",
   "aSUPERVILLAINaSURFACE INTEGRALaSURFERaSUSHIaSUSPENSION RAILWAYaSWANaSWASH AMPERSAND ORNAMENT",
   "aSWIMMERaSWUNG DASHaSYLOTI NAGRI LETTER AdBHOdBOdCHOdCOdDDHOdDDOdDHOdDOdEdGHOdGOdHOdIdJHOdJO",
   "dKHOdKOdLOdMOdNOdOdPHOdPOdROdRROdSOdTHOdTOdTTHOdTTOdUcPOETRY MARK-1e2e3e4",
   "cSIGN ALTERNATE HASANTAdANUSVARAdDVISVARAdHASANTAcVOWEL SIGN AeEeIeOOeUaSYMBOL FOR ACKNOWLEDGE",
   "cBACKSPACEcBELLcCANCELcCARRIAGE RETURNcDATA LINK ESCAPEcDELETEcDELETE FORM TWO",
   "cDEVICE CONTROL FOUReONEeTHREEeTWOcEND OF MEDIUMeTEXTeTRANSMISSIONeTRANSMISSION BLOCKcENQUIRY",
   "cESCAPEcFILE SEPARATORcFORM FEEDcGROUP SEPARATORcHORIZONTAL TABULATIONcLINE FEEDcMARKS CHAPTER",
   "cNEGATIVE ACKNOWLEDGEcNEWLINEcNULLcRECORD SEPARATORcSAMARITAN SOURCEcSHIFT INdOUTcSPACE",
   "cSTART OF HEADINGeTEXTcSUBSTITUTEcSUBSTITUTE FORM TWOcSYNCHRONOUS IDLEcTYPE A ELECTRONICS",
   "cUNIT SEPARATORcVERTICAL TABULATIONaSYMMETRYaSYNaSYNAGOGUEaSYNCHRONOUS IDLE",
   "aSYRIAC ABBREVIATION MARKbBARREKHbCOLON SKEWED LEFTdRIGHTbCONTRACTIONbDOTTED ZLAMA ANGULAR",
   "dHORIZONTALbEND OF PARAGRAPHbESASA ABOVEcBELOWbFEMININE DOTbHARKLEAN ASTERISCUScMETOBELUS",
   "cOBELUSbHBASA ABOVEcBELOWbHBASA-ESASA DOTTEDbHORIZONTAL COLONbLETTER ALAPHcBETHcDALATH",
   "cDOTLESS DALATH RISHcEcFINAL SEMKATHcGAMALcGAMAL GARSHUNIcHEcHETHcKAPHcLAMADHcMALAYALAM BHAdJA",
   "dLLAdLLLAdNGAdNNAdNNNAdNYAdRAdSSAdTTAcMIMcNUNcPEcPERSIAN BHETHdDHALATHdGHAMALcQAPHcREVERSED PE",
   "cRISHcSADHEcSEMKATHcSHINcSOGDIAN FEdKHAPHdZHAINcSUPERSCRIPT ALAPHcTAWcTETHcTETH GARSHUNIcWAW",
   "cYUDHcYUDH HEcZAINbMUSICbOBLIQUE LINE ABOVEdBELOWbPTHAHA ABOVEcBELOWcDOTTEDbQUSHSHAYA",
   "bRBASA ABOVEcBELOWbRUKKAKHAbRWAHAbSUBLINEAR COLONcCOLON SKEWED LEFTeRIGHTcFULL STOP",
   "bSUPRALINEAR COLONcCOLON SKEWED LEFTcFULL STOPbTHREE DOTS ABOVEdBELOWbTWO VERTICAL DOTS ABOVE",
   "eBELOWbZQAPHA ABOVEcBELOWcDOTTEDaSYRINGEaT-REXbSHIRTaTABaTABLE TENNIS PADDLE AND BALLaTACO",
   "aTAG AMPERSANDbAPOSTROPHEbASTERISKbCIRCUMFLEX ACCENTbCOLONbCOMMAbCOMMERCIAL ATbDIGIT EIGHTcFIVE",
   "cFOURcNINEcONEcSEVENcSIXcTHREEcTWOcZERObDOLLAR SIGNbEQUALS SIGNbEXCLAMATION MARKbFULL STOP",
   "bGRAVE ACCENTbGREATER-THAN SIGNbHYPHEN-MINUSbLATIN CAPITAL LETTER AeBeCeDeEeFeGeHeIeJeKeLeMeNeO",
   "ePeQeReSeTeUeVeWeXeYeZcSMALL LETTER AeBeCeDeEeFeGeHeIeJeKeLeMeNeOePeQeReSeTeUeVeWeXeYeZ",
   "bLEFT CURLY BRACKETcPARENTHESIScSQUARE BRACKETbLESS-THAN SIGNbLOW LINEbNUMBER SIGNbPERCENT SIGN",
   "bPLUS SIGNbQUESTION MARKbQUOTATION MARKbREVERSE SOLIDUSbRIGHT CURLY BRACKETcPARENTHESIS",
   "cSQUARE BRACKETbSEMICOLONbSOLIDUSbSPACEbTILDEbVERTICAL LINEaTAGALOG LETTER AcARCHAIC RAcBAcDA",
   "cGAcHAcIcKAcLAcMAcNAcNGAcPAcRAcSAcTAcUcWAcYAbSIGN PAMUDPODcVIRAMAbVOWEL SIGN IdU",
   "aTAGBANWA LETTER AcBAcDAcGAcIcKAcLAcMAcNAcNGAcPAcSAcTAcUcWAcYAbVOWEL SIGN IdUaTAI LE LETTER A",
   "dAIdAUEdEdEEdEHdFAdHAdIdKAdKHAdLAdMAdNAdNGAdOdOOdPAdPHAdQAdSAdTAdTHAdTONE-2e3e4e5e6dTSAdTSHAdU",
   "dUEdVAdXAdYAbTHAM COMBINING CRYPTOGRAMMIC DOTcCONSONANT SIGN BAeFINAL NGAeHIGH RATHA OR LOW PA",
   "eLA TANG LAIeLOW PAeMAeMEDIAL LAfRAeSAcHORA DIGIT EIGHTeFIVEeFOUReNINEeONEeSEVENeSIXeTHREEeTWO",
   "eZEROcLETTER AdBAdDAdEEdGREAT SAdHIGH CAeCHAeFAeHAeKAeKHAeKXAePAePHAeRATHAeSAeSHAeSSAeTAeTHAeYA",
   "dIdIIdLAdLAEdLLAdLOW CAeCHAeFAeHAeKAeKHAeKXAePAePHAeRATHAeSAeTAeTHAeYAdLUEdMAdNAdNGAdNYAdOOdRA",
   "dRANAdRATAdRUEdUdUUdWAcSIGN CAANGdDOKMAIdHANGdHOYdKAANdKAANKUUdKEOWdKHUEN TONE-3f4f5",
   "dKHUEN-LUE KARANdMAI KANGeKANG LAIeSAMeYAMOKdRA HAAMdREVERSED ROTATED RANAdSAKOTdSATKAAN",
   "dSATKAANKUUdSAWANdTONE-1e2dWIANGdWIANGWAAKcTHAM DIGIT EIGHTeFIVEeFOUReNINEeONEeSEVENeSIXeTHREE",
   "eTWOeZEROcVOWEL SIGN AeAAeAEeAIeEeIeIIeMAI SATeOeOA ABOVEfBELOWeOOeOYeTALL AAeTHAM AIeUeUEeUU",
   "eUUEbVIET LETTER HIGH BOeCHOeCOeDOeFOeGOeHOeKHHOeKHOeKOeLOeMOeNGOeNOeNYOeOePHOePOeROeSOeTHOeTO",
   "eVOeYOdLOW BOeCHOeCOeDOeFOeGOeHOeKHHOeKHOeKOeLOeMOeNGOeNOeNYOeOePHOePOeROeSOeTHOeTOeVOeYO",
   "cMAI KANGdKHITcSYMBOL HO HOIdKOI KOIdKONdNUENGdSAMcTONE MAI EKeNUENGeSONGeTHOcVOWEL AAdAMdAN",
   "dAUEdAYdEdIdIAdOdUdUAdUEdUEAaTAKEOUT BOXaTAKRI ABBREVIATION SIGNbDIGIT EIGHTcFIVEcFOURcNINEcONE",
   "cSEVENcSIXcTHREEcTWOcZERObLETTER AcAAcAIcARCHAIC KHAcAUcBAcBHAcCAcCHAcDAcDDAcDDHAcDHAcEcGAcGHA",
   "cHAcIcIIcJAcJHAcKAcKHAcLAcMAcNAcNGAcNNAcNYAcOcPAcPHAcRAcRRAcSAcSHAcTAcTHAcTTAcTTHAcUcUUcVAcYA",
   "bSIGN ANUSVARAcNUKTAcVIRAMAcVISARGAbVOWEL SIGN AAdAIdAUdEdIdIIdOdUdUUaTALLY MARK FIVEcONE",
   "aTAMALEaTAMIL AND ODD SIGNbAS ABOVE SIGNbAU LENGTH MARKbCREDIT SIGNbCURRENT SIGNbDAY SIGN",
   "bDEBIT SIGNbDIGIT EIGHTcFIVEcFOURcNINEcONEcSEVENcSIXcTHREEcTWOcZERObDRY CULTIVATION SIGN",
   "bFRACTION DOWNSCALING FACTOR KIIZHcONE EIGHTHdEIGHTIETHdFIFTHdFORTIETHdHALF-1e2",
   "dONE-HUNDRED-AND-SIXTIETHdQUARTERdSIXTEENTH-1e2dSIXTY-FOURTHdTENTHdTHIRTY-SECOND",
   "dTHREE-HUNDRED-AND-TWENTIETHdTWENTIETHcTHREE EIGHTIETHSdQUARTERSdSIXTEENTHSdSIXTY-FOURTHS",
   "dTWENTIETHSbIN POSSESSION SIGNbLAND SIGNbLETTER AcAAcAIcAUcCAcEcEEcHAcIcIIcJAcKAcLAcLLAcLLLAcMA",
   "cNAcNGAcNNAcNNNAcNYAcOcOOcPAcRAcRRAcSAcSHAcSSAcTAcTTAcUcUUcVAcYAbMONTH SIGNbNUMBER ONE HUNDRED",
   "dTHOUSANDcSIGNcTENbOMbPUNCTUATION END OF TEXTbRUPEE SIGNbSALT PAN SIGNbSIGN AAZHAAKKUcANUSVARA",
   "cCEVITUcKAACUcKURUNIcKUZHIcMUKKURUNIcMUTHALIYAcMUUVUZHAKKUcNELcPAARAMcPANAMcPATHAKKUcPON",
   "cUZHAKKUcVAKAIYARAAcVARAAKANcVELIcVIRAMAcVISARGAbSPENT SIGNbSTARTING FROM SIGNbTOTAL SIGN",
   "bTRADITIONAL CREDIT SIGNcNUMBER SIGNbVOWEL SIGN AAdAIdAUdEdEEdIdIIdOdOOdUdUU",
   "bWET CULTIVATION SIGNbYEAR SIGNaTANABATA TREEaTANGERINEaTANGSA DIGIT EIGHTcFIVEcFOURcNINEcONE",
   "cSEVENcSIXcTHREEcTWOcZERObLETTER ACcAQcAWCcAWQcAWXcAWZcAXcAZcBAcCAcCHAcDAcDHAcECcEQcEXcEZcFA",
   "cFINAL NGcGAcGHAcHAcHTAcHTTAcICcIQcIXcIZcKAcKHAcLAcLONG UEXcMAcMCcMQcMXcMZcNAcNGAcNHAcNYAcOCcOQ",
   "cOXcOZcPAcPHAcRAcSAcSHAcSHORT AWXdUEZcTAcTHAcTSAcUCcUECcUEQcUEXcUEZcUICcUIQcUIUCcUIUQcUIUXcUIUZ",
   "cUIXcUIZcUQcUXcUZcVCcVQcVXcVZcWAcXAcYAcZAaTANGUT ITERATION MARKaTAPE CARTRIDGEbDRIVEaTAURUS",
   "aTAXIaTEACUP WITHOUT HANDLEaTEAPOTaTEAR-OFF CALENDARaTEARDROP-BARBED RIGHTWARDS ARROW",
   "bSPOKED ASTERISKaTEDDY BEARaTELEPHONE LOCATION SIGNbON TOP OF MODEMbRECEIVERbRECEIVER WITH PAGE",
   "bRECORDERbSIGNaTELESCOPEaTELEVISIONaTELUGU AI LENGTH MARKbDIGIT EIGHTcFIVEcFOURcNINEcONEcSEVEN",
   "cSIXcTHREEcTWOcZERObFRACTION DIGIT ONE FOR EVEN POWERS OF FOURfODD POWERS OF FOUR",
   "dTHREE FOR EVEN POWERS OF FOURfODD POWERS OF FOURdTWO FOR EVEN POWERS OF FOUR",
   "fODD POWERS OF FOURdZERO FOR ODD POWERS OF FOURbLENGTH MARKbLETTER AcAAcAIcAUcBAcBHAcCAcCHAcDA",
   "cDDAcDDHAcDHAcDZAcEcEEcGAcGHAcHAcIcIIcJAcJHAcKAcKHAcLAcLLAcLLLAcMAcNAcNAKAARA POLLUcNGAcNNAcNYA",
   "cOcOOcPAcPHAcRAcRRAcRRRAcSAcSHAcSSAcTAcTHAcTSAcTTAcTTHAcUcUUcVAcVOCALIC LdLLdRdRRcYA",
   "bSIGN ANUSVARAcAVAGRAHAcCANDRABINDUcCOMBINING ANUSVARA ABOVEdCANDRABINDU ABOVEcNUKTAcSIDDHAM",
   "cTUUMUcVIRAMAcVISARGAbVOWEL SIGN AAdAIdAUdEdEEdIdIIdOdOOdUdUUdVOCALIC LeLLeReRRaTENGE SIGN",
   "aTENNIS RACQUET AND BALLaTENTaTEST TUBEaTETRAGRAM FOR ACCUMULATIONcADVANCEcAGGRAVATIONcASCENT",
   "cBARRIERcBOLD RESOLUTIONcBRANCHING OUTcCENTREcCHANGEcCLOSED MOUTHcCLOSENESScCLOSUREcCOMPLETION",
   "cCOMPLIANCEcCONSTANCYcCONTACTcCONTENTIONcCONTRARIETYcDARKENINGcDECISIVENESS",
   "cDEFECTIVENESS OR DISTORTIONcDEPARTUREcDIFFICULTIEScDIMINISHMENTcDIMMINGcDIVERGENCEcDOUBT",
   "cDUTIEScEASEcEMBELLISHMENTcENCOUNTERScENDEAVOURcENLARGEMENTcETERNITYcEXHAUSTIONcFAILUREcFLIGHT",
   "cFOLLOWINGcFOSTERINGcFULL CIRCLEcFULLNESScGATHERINGcGATHERING INcGOING TO MEETcGREATNESS",
   "cGUARDEDNESScHARDNESScHOLDING BACKcINCREASEcINNERcJOYcKEEPING SMALLcKINSHIPcLABOURING",
   "cLAW OR MODELcLEGIONcMASSINGcMEASUREcMIREDcON THE VERGEcOPPOSITIONcPACKINGcPATTERNcPENETRATION",
   "cPURITYcREACHcRELEASEcRESIDENCEcRESISTANCEcRESPONSEcRITUALcSEVERANCEcSINKINGcSTOPPAGEcSTOVE",
   "cSTRENGTHcUNITYcVASTNESS OR WASTINGcWAITINGcWATCHcYOUTHFULNESSaTHAANA AABAAFILIbABAFILIbEBEFILI",
   "bEEBEEFILIbEYBEYFILIbIBIFILIbLETTER AINUcALIFUcBAAcCHAVIYANIcDAADHUcDAVIYANIcDHAALUcFAAFUcGAAFU",
   "cGHAINUcGNAVIYANIcHAAcHHAAcJAVIYANIcKAAFUcKHAAcLAAMUcLHAVIYANIcMEEMUcNAAcNOONUcPAVIYANIcQAAFU",
   "cRAAcSAADHUcSEENUcSHAVIYANIcSHEENUcTAVIYANIcTHAAcTHAALUcTOcTTAAcVAAVUcWAAVUcYAAcZAAcZAVIYANIcZO",
   "bOABOAFILIbOBOFILIbOOBOOFILIbSUKUNbUBUFILIaTHAI CHARACTER ANGKHANKHUcBO BAIMAIcCHO CHANdCHANG",
   "dCHINGdCHOEcDO CHADAdDEKcFO FAdFANcFONGMANcHO HIPdNOKHUKcKHO KHAIdKHONdKHUATdKHWAIdRAKHANG",
   "cKHOMUTcKO KAIcLAKKHANGYAOcLO CHULAdLINGcLUcMAI CHATTAWAdEKdHAN-AKATdTHOdTRIcMAITAIKHUcMAIYAMOK",
   "cMO MAcNGO NGUcNIKHAHITcNO NENdNUcO ANGcPAIYANNOIcPHINTHUcPHO PHANdPHUNGdSAMPHAOcPO PLAcRO RUA",
   "cRUcSARA AdAAdAEdAI MAIMALAIeMAIMUANdAMdEdIdIIdOdUdUEdUEEdUUcSO RUSIdSALAdSOdSUAcTHANTHAKHAT",
   "cTHO NANGMONTHOdPHUTHAOdTHAHANdTHANdTHONGdTHUNGcTO PATAKdTAOcWO WAENcYAMAKKANcYO YAKdYING",
   "bCURRENCY SYMBOL BAHTbDIGIT EIGHTcFIVEcFOURcNINEcONEcSEVENcSIXcTHREEcTWOcZERO",
   "aTHERE DOES NOT EXISTbEXISTSaTHEREFOREaTHERMODYNAMICaTHERMOMETERaTHIN GREEK CROSSbSALTIREbSPACE",
   "aTHINKING FACEaTHIRD PLACE MEDALaTHONG SANDALaTHOUGHT BALLOONaTHREE BUTTON MOUSE",
   "bCONSECUTIVE EQUALS SIGNSbDIMENSIONAL ANGLEbDOT PUNCTUATIONbLEFTWARDS ARROWS",
   "bLINES CONVERGING LEFTdRIGHTbNETWORKED COMPUTERSbPOINTED BLACK STARbRAYS ABOVEcBELOWcLEFTcRIGHT",
   "bRIGHTWARDS ARROWSbSPEECH BUBBLESaTHREE-D BOTTOM-LIGHTED RIGHTWARDS ARROWHEAD",
   "cLEFT-LIGHTED DOWNWARDS EQUILATERAL ARROWHEADcRIGHT-LIGHTED UPWARDS EQUILATERAL ARROWHEAD",
   "cTOP-LIGHTED LEFTWARDS EQUILATERAL ARROWHEADeRIGHTWARDS ARROWHEADfEQUILATERAL ARROWHEADbEM DASH",
   "bPER-EM SPACEaTHUMBS DOWN SIGNbUP SIGNaTHUNDER CLOUD AND RAINaTHUNDERSTORM",
   "aTIBETAN ASTROLOGICAL SIGN -KHYUD PAdSDONG TSHUGSdSGRA GCAN -CHAR RTAGS",
   "bCANTILLATION SIGN CANG TE-UdHEAVY BEATdLIGHT BEATdSBUB -CHALbDIGIT EIGHTcFIVEcFOURcHALF EIGHT",
   "dFIVEdFOURdNINEdONEdSEVENdSIXdTHREEdTWOdZEROcNINEcONEcSEVENcSIXcTHREEcTWOcZERObKU RU KHA",
   "dKHA BZHI MIG CANbLETTER -AcAcBAcBHAcCAcCHAcDAcDDAcDDHAcDHAcDZAcDZHAcFIXED-FORM RAcGAcGHAcHAcJA",
   "cKAcKHAcKKAcKSSAcLAcMAcNAcNGAcNNAcNYAcPAcPHAcRAcRRAcSAcSHAcSSAcTAcTHAcTSAcTSHAcTTAcTTHAcWAcYA",
   "cZAcZHAbLOGOTYPE SIGN CHAD RTAGSdLHAG RTAGSbMARK ANG KHANG GYASeGYONcBKA- SHOG GI MGO RGYAN",
   "fYIG MGOcBSDUS RTAGScBSKA- SHOG GI MGO RGYANcBSKUR YIG MGOcCARET -DZUD RTAGS BZHI MIG CAN",
   "gME LONG CANdYIG MGO PHUR SHAD MAcCHE MGOcCLOSING BRDA RNYING YIG MGO SGAB MAdYIG MGO SGAB MA",
   "cDELIMITER TSHEG BSTARcGTER TSHEGdYIG MGO -UM GTER TSHEG MAhRNAM BCAD MAfTRUNCATED A",
   "cGUG RTAGS GYASeGYONcHALANTAcINITIAL BRDA RNYING YIG MGO MDUN MAdYIG MGO MDUN MA",
   "cINTERSYLLABIC TSHEGcLEADING MCHAN RTAGScMNYAM YIG GI MGO RGYANcNGAS BZUNG NYI ZLAeSGOR RTAGS",
   "cNYIS SHADdTSHEGdTSHEG SHADcPALUTAcRGYA GRAM SHADcRIN CHEN SPUNGS SHADcSBRUL SHADcSHAD",
   "cTRAILING MCHAN RTAGScTSA -PHRUcTSHEG SHADcYIG MGO TSHEG SHAD MAbSIGN GRU CAN RGYINGS",
   "dMED RGYINGScINVERTED MCHU CANcLCE TSA CANcLCI RTAGScMAR TSHEScMCHU CANcNYI ZLA NAA DA",
   "cRDEL DKAR GCIGeGNYISeGSUMeRDEL NAGdNAG GCIGeGNYISeGSUMeRDEL DKARcRJES SU NGA ROcRNAM BCAD",
   "cSNA LDANcYANG RTAGScYAR TSHESbSUBJOINED LETTER -AdAdBAdBHAdCAdCHAdDAdDDAdDDHAdDHAdDZAdDZHA",
   "dFIXED-FORM RAfWAfYAdGAdGHAdHAdJAdKAdKHAdKSSAdLAdMAdNAdNGAdNNAdNYAdPAdPHAdRAdSAdSHAdSSAdTAdTHA",
   "dTSAdTSHAdTTAdTTHAdWAdYAdZAdZHAcSIGN INVERTED MCHU CANdLCE TSA CANdMCHU CANbSYLLABLE OM",
   "bSYMBOL DRIL BUcNOR BUdBU BZHI -KHYILeGSUM -KHYILeNYIS -KHYILcPADMA GDANcPHUR PAcRDO RJE",
   "dRJE RGYA GRAMbVOWEL SIGN AAdEdEEdIdIIdOdOOdREVERSED IeIIdUdUUdVOCALIC LeLLeReRRaTICKET",
   "aTIE OVER INFINITYaTIFINAGH CONSONANT JOINERbLETTER AHAGGAR YAZHcAYER YAGHcBERBER ACADEMY YAH",
   "eYAJcTAWELLEMET YAZcTUAREG YAGHdYAGNdYAHdYAKdYAKHdYANGdYAQdYAZHcYAcYAAcYABcYABHcYACHcYADcYADD",
   "cYADDHcYADHcYAFcYAGcYAGHcYAGHHcYAHcYAHHcYAJcYAKcYAKHcYAKHHcYALcYAMcYANcYAPcYAQcYARcYARRcYAS",
   "cYASHcYASScYATcYATHcYATTcYAVcYAWcYAYcYAZcYAZHcYAZZcYEcYEYcYIcYOcYU",
   "bMODIFIER LETTER LABIALIZATION MARKbSEPARATOR MARKaTIGERaTIGER FACEaTIGHT TRIFOLIATE SNOWFLAKE",
   "aTILDEaTILDE OPERATORbOPERATOR ABOVE LEFTWARDS ARROWdRIGHTWARDS ARROWcWITH DOT ABOVE",
   "dRISING DOTSbWITH DOT ABOVEdBELOWcRING ABOVEaTIMER CLOCKaTIMES WITH LEFT HALF BLACK",
   "cRIGHT HALF BLACKaTINYaTINY TWO DOTS OVER ONE DOT PUNCTUATIONaTIRED FACE",
   "aTIRHUTA ABBREVIATION SIGNbANJIbDIGIT EIGHTcFIVEcFOURcNINEcONEcSEVENcSIXcTHREEcTWOcZERObGVANG",
   "bLETTER AcAAcAIcAUcBAcBHAcCAcCHAcDAcDDAcDDHAcDHAcEcGAcGHAcHAcIcIIcJAcJHAcKAcKHAcLAcMAcNAcNGA",
   "cNNAcNYAcOcPAcPHAcRAcSAcSHAcSSAcTAcTHAcTTAcTTHAcUcUUcVAcVOCALIC LdLLdRdRRcYAbOMbSIGN ANUSVARA",
   "cAVAGRAHAcCANDRABINDUcNUKTAcVIRAMAcVISARGAbVOWEL SIGN AAdAIdAUdEdIdIIdOdSHORT EeOdUdUU",
   "dVOCALIC LeLLeReRRaTIRONIAN SIGN CAPITAL ETcETaTOILETaTOKYO TOWERaTOMATOaTONGUEaTOOLBOXaTOOTH",
   "aTOOTHBRUSHaTOP ARC ANTICLOCKWISE ARROWdARROW WITH PLUScCLOCKWISE ARROW WITH MINUS",
   "bCURLY BRACKETbHALF BLACK CIRCLEcINTEGRALcLEFT PARENTHESIScRIGHT PARENTHESIScSECTION SIGNbHAT",
   "bLEFT CORNERcCROPcHALF BRACKETbPARENTHESISbRIGHT CORNERcCROPcHALF BRACKETbSQUARE BRACKET",
   "bTORTOISE SHELL BRACKETbWITH UPWARDS ARROW ABOVE",
   "aTORTOISE SHELL BRACKETED CJK UNIFIED IDEOGRAPH-4E09g4E8Cg52DDg5B89g6253g6557g672Cg70B9g76D7",
   "dLATIN CAPITAL LETTER SaTOTAL RUNOUTaTOTO LETTER AcAEcBAcBREATHY AEdEdEOdIdIUcCHAcDAcEcEOcGAcHA",
   "cIcIUcJAcKAcLAcMAcNAcNGAcOcPAcRAcSAcTAcUcWAcYAbSIGN RISING TONEaTRACKBALLaTRACTOR",
   "aTRADE MARK SIGNaTRAINaTRAMaTRAM CARaTRANSPLUTOaTRANSVERSAL INTERSECTION",
   "aTRIANGLE WITH DOT ABOVEcROUNDED CORNERScSERIFS AT BOTTOMcUNDERBAR",
   "aTRIANGLE-HEADED RIGHTWARDS ARROWaTRIANGULAR BULLETbFLAG ON POSTbRULERaTRICOLONaTRIDENT EMBLEM",
   "aTRIGRAM FOR EARTHcFIREcHEAVENcLAKEcMOUNTAINcTHUNDERcWATERcWINDaTRIPLE COLON OPERATORbDAGGER",
   "bHORIZONTAL BAR WITH DOUBLE VERTICAL STROKEeTRIPLE VERTICAL STROKEbINTEGRALbNESTED GREATER-THAN",
   "cLESS-THANbPLUSbPRIMEbSOLIDUS BINARY RELATIONbTILDEbVERTICAL BAR BINARY RELATIONdDELIMITER",
   "dRIGHT TURNSTILEdWITH HORIZONTAL STROKEaTROLLaTROLLEYBUSaTROPHYaTROPICAL DRINKbFISHaTRUE",
   "aTRUE LIGHT MOON ARTAaTRUMPETaTUGRIK SIGNaTULIPaTUMBLER GLASSaTURKEYaTURKISH LIRA SIGN",
   "aTURNED AMPERSANDbANGLEbBLACK PENTAGONcSHOGI PIECEbCAPITAL FbCOMMAbDAGGERbDIGIT THREEcTWO",
   "bGREEK SMALL LETTER IOTAbNORTH EAST POINTING LEAFcWEST POINTING LEAFbNOT SIGNbOK HAND SIGN",
   "bSANS-SERIF CAPITAL GeLeYbSEMICOLONbSMALL FbSOUTH EAST POINTING LEAFcWEST POINTING LEAF",
   "bWHITE SHOGI PIECEaTURTLEaTWELVE POINTED BLACK STARaTWISTED RIGHTWARDS ARROWS",
   "aTWO ASTERISKS ALIGNED VERTICALLYbBUTTON MOUSEbCONSECUTIVE EQUALS SIGNSbDOT LEADERcPUNCTUATION",
   "bDOTS OVER ONE DOT PUNCTUATIONbHEARTSbINTERSECTING LOGICAL ANDdORbJOINED SQUARES",
   "bLOGICAL AND OPERATORcOR OPERATORbMEN HOLDING HANDSbSPEECH BUBBLESbWOMEN HOLDING HANDS",
   "aTWO-EM DASHaUGARITIC LETTER AINcALPAcBETAcDELTAcDHALcGAMLAcGHAINcHOcHOTAcIcKAFcKHAcLAMDAcMEM",
   "cNUNcPUcQOPAcRASHAcSADEcSAMKAcSHINcSSUcTETcTHANNAcTOcUcWOcYODcZETAcZUbWORD DIVIDERaUMBRELLA",
   "aUMBRELLA ON GROUNDbWITH RAIN DROPSaUNAMUSED FACEaUNCERTAINTY SIGNaUNDERTIEaUNDO SYMBOL",
   "aUNICORN FACEaUNIONaUNION ABOVE BAR ABOVE INTERSECTIONcINTERSECTION",
   "bBESIDE AND JOINED WITH UNIONbWITH LOGICAL ORcMINUS SIGNcOVERBARaUNIT SEPARATORaUNITED SYMBOL",
   "aUNIVERSAL RECYCLING SYMBOLaUNMARRIED PARTNERSHIP SYMBOLaUP ARROW THROUGH CIRCLEbARROWHEAD",
   "bARROWHEAD BETWEEN TWO HORIZONTAL BARScIN A RECTANGLE BOXbBARB LEFT DOWN BARB LEFT HARPOON",
   "fRIGHT HARPOONcRIGHT DOWN BARB LEFT HARPOONfRIGHT HARPOONbDOWN ARROWcARROW WITH BASE",
   "cBLACK ARROWcDOUBLE ARROWcSANS-SERIF ARROWcTRIANGLE-HEADED ARROWcWHITE ARROWbFISH TAIL",
   "bRIGHT DIAGONAL ELLIPSISbTACKbTACK WITH CIRCLE ABOVEaUP-POINTING AIRPLANEcMILITARY AIRPLANE",
   "cRED TRIANGLEcSMALL AIRPLANEdRED TRIANGLEcTRIANGLE WITH LEFT HALF BLACKeRIGHT HALF BLACK",
   "aUPPER AND LEFT AND LOWER TRIANGULAR THREE QUARTERS BLOCKcLOWER ONE EIGHTH BLOCK",
   "dTRIANGULAR HALF BLOCKcRIGHT AND LOWER TRIANGULAR THREE QUARTERS BLOCKbBLADE SCISSORS",
   "bFIVE EIGHTHS BLOCKbHALF BLOCKcBLOCK AND LOWER HALF INVERSE MEDIUM SHADEcCIRCLE",
   "cINVERSE MEDIUM SHADE AND LOWER HALF BLOCKdWHITE CIRCLEcMEDIUM SHADE",
   "bLEFT BLOCK DIAGONAL LOWER CENTRE TO LOWER MIDDLE RIGHThUPPER MIDDLE RIGHTiRIGHT",
   "fLEFT TO LOWER MIDDLE RIGHThUPPER CENTREiMIDDLE RIGHTfMIDDLE LEFT TO UPPER CENTREjMIDDLE RIGHT",
   "jRIGHTeUPPER MIDDLE LEFT TO UPPER CENTREjRIGHTcCORNER WITH DOT",
   "cOR LOWER RIGHT CURLY BRACKET SECTIONcQUADRANT CIRCULAR ARCcTO LOWER RIGHT FILLcTRIANGLE",
   "cTRIANGULAR MEDIUM SHADEbONE EIGHTH BLOCKcQUARTER BLOCK",
   "bRIGHT BLOCK DIAGONAL LOWER MIDDLE LEFT TO LOWER CENTREjRIGHT",
   "eUPPER CENTRE TO LOWER MIDDLE RIGHTiRIGHThUPPER MIDDLE RIGHTfLEFT TO LOWER CENTREiMIDDLE RIGHT",
   "hUPPER MIDDLE RIGHTfMIDDLE LEFT TO LOWER CENTREjMIDDLE RIGHTjRIGHTcDROP-SHADOWED WHITE SQUARE",
   "cOR LOWER LEFT CURLY BRACKET SECTIONcPENCILcQUADRANT CIRCULAR ARCcSHADOWED WHITE CIRCLEeSQUARE",
   "cTO LOWER LEFT FILLcTRIANGLEcTRIANGULAR MEDIUM SHADEbSEVEN EIGHTHS BLOCKbTHREE EIGHTHS BLOCK",
   "cQUARTERS BLOCKbTRIANGULAR ONE QUARTER BLOCKaUPSIDE-DOWN FACEaUPWARDS ANCORAbARROW",
   "bARROW AND RIGHT ONE EIGHTH BLOCKcFROM BARcLEFTWARDS OF DOWNWARDS ARROWcTO BAR",
   "cWITH DOUBLE STROKEdEQUILATERAL ARROWHEADdHORIZONTAL STROKEdLARGE TRIANGLE ARROWHEAD",
   "dMEDIUM TRIANGLE ARROWHEADdNOTCHED TAILdSMALL EQUILATERAL ARROWHEADeTRIANGLE ARROWHEAD",
   "dTIP LEFTWARDSeRIGHTWARDSbBLACK ARROWcCIRCLED WHITE ARROWbCOMPRESSED ARROWbDASHED ARROW",
   "bDOUBLE ARROWbFINGER-POST ARROWbHARPOON WITH BARB LEFT BESIDE DOWNWARDS HARPOON WITH BARB RIGHT",
   "gUPWARDS HARPOON WITH BARB RIGHTfFROM BARfTO BAReLEFTWARDSeRIGHT FROM BARfTO BAReRIGHTWARDS",
   "bHEAVY ARROWcCOMPRESSED ARROWbPAIRED ARROWSbQUADRUPLE ARROWbROCKETbSANS-SERIF ARROW",
   "bSQUARED ARROWbTRIANGLE ARROWHEADbTRIANGLE-HEADED ARROW",
   "dARROW LEFTWARDS OF DOWNWARDS TRIANGLE-HEADED ARROWeTO BAReWITH BOLD SHAFT",
   "fDOUBLE HORIZONTAL STROKEfHEAVY SHAFTfLONG TIP LEFTWARDShRIGHTWARDSfMEDIUM SHAFTfNARROW SHAFT",
   "fVERY HEAVY SHAFTdDASHED ARROWdPAIRED ARROWSbTRIPLE ARROWbTWO HEADED ARROW",
   "bTWO-HEADED ARROW FROM SMALL CIRCLEeWITH TRIANGLE ARROWHEADSbWHITE ARROWcARROW FROM BAR",
   "eBAR WITH HORIZONTAL BARdON PEDESTALePEDESTAL WITH HORIZONTAL BARgVERTICAL BAR",
   "dWITHIN TRIANGLE ARROWHEADcDOUBLE ARROWdARROW ON PEDESTALaURANUSaUSaVAI COMMAbDIGIT EIGHTcFIVE",
   "cFOURcNINEcONEcSEVENcSIXcTHREEcTWOcZERObFULL STOPbQUESTION MARKbSYLLABLE AcANcBAcBEcBEEcBHAcBHE",
   "cBHEEcBHIcBHOcBHOOcBHUcBIcBOcBOOcBUcCAcCEcCEEcCIcCOcCOOcCUcDAcDEcDEEcDHAcDHEcDHEEcDHHAcDHHE",
   "cDHHEEcDHHIcDHHOcDHHOOcDHHUcDHIcDHOcDHOOcDHUcDIcDOcDOOcDUcEcEEcEENcENcFAcFEcFEEcFIcFOcFOOcFUcGA",
   "cGBAcGBEcGBEEcGBENcGBIcGBOcGBONcGBOOcGBUcGEcGEEcGENcGIcGOcGOOcGUcHAcHANcHEcHEEcHENcHIcHINcHO",
   "cHONcHOOcHUcHUNcIcINcJAcJEcJEEcJIcJOcJOOcJUcKAcKANcKEcKEEcKIcKOcKOOcKPAcKPANcKPEcKPEEcKPENcKPI",
   "cKPOcKPOOcKPUcKUcLAcLEcLEEcLENGTHENERcLIcLOcLOOcLUcMAcMBAcMBEcMBEEcMBIcMBOcMBOOcMBUcMEcMEEcMGBA",
   "cMGBEcMGBEEcMGBIcMGBOcMGBOOcMGBUcMIcMOcMOOcMUcNAcNDAcNDEcNDEEcNDIcNDOcNDOLE DOdFAdKAdMAdSOO",
   "cNDOOcNDUcNEcNEEcNGcNGANcNGENcNGGAcNGGEcNGGEEcNGGENcNGGIcNGGOcNGGOOcNGGUcNGONcNIcNJAcNJEcNJEE",
   "cNJIcNJOcNJOOcNJUcNOcNOOcNUcNYAcNYEcNYEEcNYIcNYOcNYOOcNYUcOcONcOOcOONcPAcPEcPEEcPIcPOcPOOcPUcRA",
   "cREcREEcRIcROcROOcRUcSAcSEcSEEcSHAcSHEcSHEEcSHIcSHOcSHOOcSHUcSIcSOcSOOcSUcTAcTEcTEEcTHAcTHE",
   "cTHEEcTHIcTHOcTHOOcTHUcTIcTOcTOOcTUcUcUNcVAcVEcVEEcVIcVOcVOOcVUcWAcWANcWEcWEEcWEENcWENcWIcWIN",
   "cWOcWONcWOOcWOONcWUcWUNcYAcYEcYEEcYIcYOcYOOcYUcZAcZEcZEEcZHAcZHEcZHEEcZHIcZHOcZHOOcZHUcZIcZO",
   "cZOOcZUbSYMBOL BANGcDANGcDO-OcDOONGcFAAcFEENGcJONGcKEENGcKUNGcNIIcTAAcTINGcTONGaVAMPIRE",
   "aVECTOR OR CROSS PRODUCTaVEDIC SIGN ANUSVARA ANTARGOMUKHAdBAHIRGOMUKHAdUBHAYATO MUKHA",
   "dVAMAGOMUKHAdVAMAGOMUKHA WITH TAILcARDHAVISARGAcATIKRAMAcDOUBLE ANUSVARA ANTARGOMUKHA",
   "cHEXIFORM LONG ANUSVARAcJIHVAMULIYAcLONG ANUSVARAcNIHSHVASAcREVERSED VISARGA ANUDATTAeUDATTA",
   "cROTATED ARDHAVISARGAcRTHANG LONG ANUSVARAcTIRYAKcUPADHMANIYAcVISARGA ANUDATTA",
   "dANUDATTA WITH TAILdSVARITAdUDATTAdUDATTA WITH TAILcYAJURVEDIC MIDLINE SVARITA",
   "bTONE ATHARVAVEDIC INDEPENDENT SVARITAcCANDRA ABOVEdBELOWcDOT BELOWcDOUBLE RING ABOVEdSVARITA",
   "cKARSHANAcKATHAKA ANUDATTAcPRENKHAcRIGVEDIC KASHMIRI INDEPENDENT SVARITAcRING ABOVEcSHARA",
   "cTHREE DOTS BELOWcTRIPLE SVARITAcTWO DOTS BELOWcYAJURVEDIC AGGRAVATED INDEPENDENT SVARITA",
   "dINDEPENDENT SVARITAdKATHAKA INDEPENDENT SVARITAfSVARITA SCHROEDERaVERSICLE",
   "aVERTICAL BAR BESIDE RIGHT TRIANGLEcDOUBLE LEFT TURNSTILEcTRIPLE RIGHT TURNSTILE",
   "cWITH HORIZONTAL STROKEbELLIPSISbFOUR DOTSbIDEOGRAPHIC ITERATION MARKbKANA REPEAT MARK",
   "dMARK LOWER HALFeUPPER HALFdWITH VOICED SOUND MARKgMARK UPPER HALFbLINEbLINE EXTENSION",
   "cWITH CIRCLE ABOVEeBELOWdMIDDLE DOTbMALE WITH STROKE SIGNbONE EIGHTH BLOCK-2e3e4e5e6e7bSIX DOTS",
   "bTAB KEYbTABULATIONbTABULATION SETbTILDEbTRAFFIC LIGHTbZIGZAG LINEaVERY BOLD GREEK CROSS",
   "bHEAVY EIGHT POINTED BLACK STARdSPOKED ASTERISKcFIVE SPOKED ASTERISKcGREEK CROSS",
   "cREVERSE SOLIDUScSALTIREcSIX SPOKED ASTERISKcSOLIDUScWHITE CIRCLEdSQUAREbMUCH GREATER-THAN",
   "cLESS-THANaVESTAaVIBRATION MODEaVICTORY HANDaVIDEO CAMERAbGAMEaVIDEOCASSETTE",
   "aVIETNAMESE ALTERNATE READING MARK CAeNHAYaVIEWDATA SQUAREaVIOLINaVIRGO",
   "aVITHKUQI CAPITAL LETTER AdBBEdBEdCEdCHEdDEdDHEdEdEIdFEdGAdHAdHHAdIdIJEdJEdKAdLAdLLAdMEdNEdNJE",
   "dOdPEdQAdREdSEdSHEdTEdTHEdUdVEdXEdYdZEbSMALL LETTER AdBBEdBEdCEdCHEdDEdDHEdEdEIdFEdGAdHAdHHAdI",
   "dIJEdJEdKAdLAdLLAdMEdNEdNJEdOdPEdQAdREdSEdSHEdTEdTHEdUdVEdXEdYdZEaVOIDED GREEK CROSSaVOLCANO",
   "aVOLLEYBALLaVOLUME INTEGRALaVTaVTSaVULCANUSaVULGAR FRACTION FIVE EIGHTHSdSIXTHScFOUR FIFTHS",
   "cONE EIGHTHdFIFTHdHALFdNINTHdQUARTERdSEVENTHdSIXTHdTENTHdTHIRDcSEVEN EIGHTHScTHREE EIGHTHS",
   "dFIFTHSdQUARTERScTWO FIFTHSdTHIRDScZERO THIRDSaWAFFLEaWANCHO DIGIT EIGHTcFIVEcFOURcNINEcONE",
   "cSEVENcSIXcTHREEcTWOcZERObLETTER AcAAcAANcAANGcANGcAUcBAcCAcDAcEcENcFAcGAcHAcIcINGcJAcKAcKHAcLA",
   "cLLHAcMAcNAcNGAcNYAcOcONcONGcPAcPHAcRAcSAcSHAcTAcTHAcTRAcTSAcUcUENcVAcWAcYAcYIHcZAbNGUN SIGN",
   "bTONE KOIcKOINIcTUPcTUPNIaWANING CRESCENT MOON SYMBOLbGIBBOUS MOON SYMBOL",
   "aWARANG CITI CAPITAL LETTER AeAMeANGeATeBUeDAeEeENNeENYeGAeHAReHIYOeHOLOeHORReIIeKOeNGAAeNUNGeO",
   "eODDePUeSIIeSSUUeTTEeUCeUUeVIYOeWIeYAeYOeYUeYUJcDIGIT EIGHTdFIVEdFOURdNINEdONEdSEVENdSIXdTHREE",
   "dTWOdZEROcNUMBER EIGHTYdFIFTYdFORTYdNINETYdSEVENTYdSIXTYdTENdTHIRTYdTWENTYcOMcSMALL LETTER AeAM",
   "eANGeATeBUeDAeEeENNeENYeGAeHAReHIYOeHOLOeHORReIIeKOeNGAAeNUNGeOeODDePUeSIIeSSUUeTTEeUCeUUeVIYO",
   "eWIeYAeYOeYUeYUJaWARNING SIGNaWASTEBASKETaWATCHaWATER BUFFALObCLOSETbPOLObWAVEaWATERMELON",
   "aWAVE ARROW POINTING DIRECTLY LEFTeRIGHTbDASHaWAVING BLACK FLAGbHAND SIGNbWHITE FLAGaWAVY DASH",
   "bLINEbLOW LINEbOVERLINEaWAXING CRESCENT MOON SYMBOLbGIBBOUS MOON SYMBOLaWEARY CAT FACEbFACE",
   "aWEDDINGaWEDGE-TAILED RIGHTWARDS ARROWaWEIERSTRASS ELLIPTIC FUNCTIONaWEIGHT LIFTER",
   "aWEST SYRIAC CROSSaWHALEaWHEELaWHEEL OF DHARMAaWHEELCHAIR SYMBOLaWHITE ARROW SHAFT WIDTH ONE",
   "eTWO THIRDSbBULLETbCHESS BISHOPcBISHOP ROTATED NINETY DEGREESeTWO HUNDRED SEVENTY DEGREES",
   "cEQUIHOPPERcEQUIHOPPER ROTATED NINETY DEGREEScKINGcKING ROTATED NINETY DEGREES",
   "eTWO HUNDRED SEVENTY DEGREEScKNIGHTcKNIGHT ROTATED FORTY-FIVE DEGREESeNINETY DEGREES",
   "eONE HUNDRED THIRTY-FIVE DEGREESeTHREE HUNDRED FIFTEEN DEGREESeTWO HUNDRED SEVENTY DEGREES",
   "gTWENTY-FIVE DEGREEScKNIGHT-BISHOPdQUEENdROOKcPAWNcPAWN ROTATED NINETY DEGREES",
   "eTWO HUNDRED SEVENTY DEGREEScQUEENcQUEEN ROTATED NINETY DEGREESeTWO HUNDRED SEVENTY DEGREES",
   "cROOKcROOK ROTATED NINETY DEGREESeTWO HUNDRED SEVENTY DEGREEScTURNED BISHOPdKINGdKNIGHTdPAWN",
   "dQUEENdROOKbCIRCLEbCIRCLE CONTAINING BLACK SMALL CIRCLEcWITH DOT RIGHTdDOWN ARROW",
   "dLOWER LEFT QUADRANTeRIGHT QUADRANTdTWO DOTSdUPPER LEFT QUADRANTeRIGHT QUADRANTbCLUB SUIT",
   "bCONCAVE-SIDED DIAMONDdDIAMOND WITH LEFTWARDS TICKfRIGHTWARDS TICKbDIAMOND",
   "bDIAMOND CONTAINING BLACK MEDIUM DIAMONDeSMALL DIAMONDeVERY SMALL DIAMONDcIN SQUAREcSUIT",
   "cWITH CENTRED DOTbDOWN POINTING BACKHAND INDEXdINDEXdLEFT HAND INDEX",
   "bDOWN-POINTING SMALL TRIANGLEdTRIANGLEbDRAUGHTS KINGcMANbEXCLAMATION MARK ORNAMENTbFLAG",
   "bFLAG WITH HORIZONTAL MIDDLE BLACK STRIPEbFLORETTEbFLOWERbFOUR POINTED CUSPdSTARbFROWNING FACE",
   "bHARD SHELL FLOPPY DISKbHEARTbHEART SUITbHEAVY CHECK MARKcSALTIRE WITH ROUNDED CORNERSbHEXAGON",
   "bHORIZONTAL ELLIPSEbHOURGLASSbLARGE SQUAREbLATIN CROSSbLEFT LANE MERGEcPOINTING BACKHAND INDEX",
   "dINDEXbLEFT-POINTING POINTERdSMALL TRIANGLEdTRIANGLEbLOZENGE CONTAINING BLACK SMALL LOZENGE",
   "bMEDIUM DIAMONDcLOZENGEcSMALL SQUAREcSQUAREcSTARbMOON SELENAbNIBbPARALLELOGRAMbPENNANTbPENTAGON",
   "bQUESTION MARK ORNAMENTbRECTANGLEbRIGHT POINTING BACKHAND INDEXdINDEXbRIGHT-POINTING PENTAGON",
   "dPOINTERdSMALL TRIANGLEdTRIANGLEbSCISSORSbSESAME DOTbSHOGI PIECEbSMALL LOZENGEcSQUAREcSTAR",
   "bSMILING FACEbSPADE SUITbSQUAREbSQUARE BUTTONcCONTAINING BLACK MEDIUM SQUAREeSMALL SQUARE",
   "eVERY SMALL SQUAREcWITH CENTRE VERTICAL LINEdLEFTWARDS TICKdLOWER LEFT QUADRANTeRIGHT QUADRANT",
   "dRIGHTWARDS TICKdROUNDED CORNERSdUPPER LEFT QUADRANTeRIGHT QUADRANTdVERTICAL BISECTING LINE",
   "bSTARbSUNbSUN BEHIND CLOUDdCLOUD WITH RAINcWITH RAYSdSMALL CLOUDbTELEPHONEbTOUCHTONE TELEPHONE",
   "bTRAPEZIUMbTRIANGLE CONTAINING SMALL WHITE TRIANGLEbTWO-WAY LEFT WAY TRAFFIC",
   "bUP POINTING BACKHAND INDEXdINDEXbUP-POINTING CHEVRONdSMALL TRIANGLEdTRIANGLEdTRIANGLE WITH DOT",
   "bVERTICAL BARcELLIPSEcRECTANGLEbVERY SMALL SQUAREaWHITE-FEATHERED RIGHTWARDS ARROW",
   "aWIDE-HEADED DOWNWARDS BARB ARROWdHEAVY BARB ARROWdLIGHT BARB ARROWdMEDIUM BARB ARROW",
   "dVERY HEAVY BARB ARROWcLEFTWARDS BARB ARROWdHEAVY BARB ARROWdLIGHT BARB ARROWdMEDIUM BARB ARROW",
   "dVERY HEAVY BARB ARROWcNORTH EAST BARB ARROWeHEAVY BARB ARROWeLIGHT BARB ARROW",
   "eMEDIUM BARB ARROWeVERY HEAVY BARB ARROWdWEST BARB ARROWeHEAVY BARB ARROWeLIGHT BARB ARROW",
   "eMEDIUM BARB ARROWeVERY HEAVY BARB ARROWcRIGHTWARDS BARB ARROWdHEAVY BARB ARROW",
   "dLIGHT BARB ARROWdMEDIUM BARB ARROWdVERY HEAVY BARB ARROWcSOUTH EAST BARB ARROW",
   "eHEAVY BARB ARROWeLIGHT BARB ARROWeMEDIUM BARB ARROWeVERY HEAVY BARB ARROWdWEST BARB ARROW",
   "eHEAVY BARB ARROWeLIGHT BARB ARROWeMEDIUM BARB ARROWeVERY HEAVY BARB ARROWcUPWARDS BARB ARROW",
   "dHEAVY BARB ARROWdLIGHT BARB ARROWdMEDIUM BARB ARROWdVERY HEAVY BARB ARROWaWIGGLY VERTICAL LINE",
   "aWILTED FLOWERaWIND BLOWING FACEbCHIMEaWINDOWaWINE GLASSaWINKING FACEaWIRED KEYBOARDaWJ",
   "aWOLF FACEaWOMANaWOMAN WITH BUNNY EARSaWOMANS BOOTSbCLOTHESbHATbSANDALaWOMENS SYMBOLaWON SIGN",
   "aWOODaWORD JOINERbSEPARATOR MIDDLE DOTaWORLD MAPaWORMaWORRIED FACEaWRAPPED PRESENT",
   "aWREATH PRODUCTaWRENCHaWRESTLERSaWRITING HANDaX IN A RECTANGLE BOXaX-RAYaXIANGQI BLACK CANNON",
   "cCHARIOTcELEPHANTcGENERALcHORSEcMANDARINcSOLDIERbRED CANNONcCHARIOTcELEPHANTcGENERALcHORSE",
   "cMANDARINcSOLDIERaXORaYAWNING FACEaYELLOW HEARTaYEN SIGNaYEZIDI COMBINING HAMZA MARKcMADDA MARK",
   "bHYPHENATION MARKbLETTER BEcCHHIMcCHIMcCIMcDADcDALcELIFcETcEWcEYNcFAcGAFcHAYcHHAcJAcKAFcKHAF",
   "cLAMcLAM WITH DOT ABOVEcMIMcNUNcOWcPEcPHEcQAFcRAcRHAcSADcSEcSHINcSINcTAcTHEcUMcVA",
   "cVA ALTERNATE FORMcWAWcXAcXHEYNcYOTcYOT WITH CIRCUMFLEX ABOVEcZAcZALcZEaYI RADICAL BBUTcBURcCHE",
   "cCIPcCUOPcCYcCYPcCYTcDDURcDUcGAcGEPcGGOPcGGUOcGOTcHMOcHXITcHXOPcHXUOcJJIEcJJUTcJJYcJOcKEcKITcLI",
   "cLIEcLYRcMIcMOPcNBIEcNYIPcNYOPcNZUPcOPcPUTcPYTcQOTcSHATcSHOPcSHURcSHYcSSIcTATcTUcVEPcVURcWOcYIT",
   "cYOcZAcZOTcZUPcZURcZZIETbSYLLABLE AcAPcATcAXcBAcBAPcBATcBAXcBBAcBBAPcBBATcBBAXcBBEcBBEPcBBEX",
   "cBBIcBBIEcBBIEPcBBIETcBBIEXcBBIPcBBITcBBIXcBBOcBBOPcBBOTcBBOXcBBUcBBUOcBBUOPcBBUOXcBBUPcBBUR",
   "cBBURXcBBUTcBBUXcBBYcBBYPcBBYTcBBYXcBEcBEPcBEXcBIcBIEcBIEPcBIETcBIEXcBIPcBITcBIXcBOcBOPcBOTcBOX",
   "cBUcBUOcBUOPcBUOXcBUPcBURcBURXcBUTcBUXcBYcBYPcBYRcBYRXcBYTcBYXcCAcCAPcCATcCAXcCEcCEPcCEXcCHA",
   "cCHAPcCHATcCHAXcCHEcCHEPcCHETcCHEXcCHOcCHOPcCHOTcCHOXcCHUcCHUOcCHUOPcCHUOTcCHUOXcCHUPcCHUR",
   "cCHURXcCHUXcCHYcCHYPcCHYRcCHYRXcCHYTcCHYXcCIcCIEcCIEPcCIETcCIEXcCIPcCITcCIXcCOcCOPcCOTcCOXcCU",
   "cCUOcCUOPcCUOXcCUPcCURcCURXcCUTcCUXcCYcCYPcCYRcCYRXcCYTcCYXcDAcDAPcDATcDAXcDDAcDDAPcDDATcDDAX",
   "cDDEcDDEPcDDEXcDDIcDDIEcDDIEPcDDIEXcDDIPcDDITcDDIXcDDOcDDOPcDDOTcDDOXcDDUcDDUOcDDUOPcDDUOXcDDUP",
   "cDDURcDDURXcDDUTcDDUXcDEcDEPcDEXcDIcDIEcDIEPcDIEXcDIPcDITcDIXcDOcDOPcDOTcDOXcDUcDUOcDUOXcDUP",
   "cDURcDURXcDUTcDUXcEcEXcFAcFAPcFATcFAXcFIcFIPcFITcFIXcFOcFOPcFOXcFUcFUPcFURcFURXcFUTcFUXcFYcFYP",
   "cFYTcFYXcGAcGAPcGATcGAXcGEcGEPcGETcGEXcGGAcGGAPcGGATcGGAXcGGEcGGEPcGGETcGGEXcGGIcGGIEcGGIEP",
   "cGGIEXcGGITcGGIXcGGOcGGOPcGGOTcGGOXcGGUcGGUOcGGUOPcGGUOTcGGUOXcGGUPcGGURcGGURXcGGUTcGGUXcGIcGIE",
   "cGIEPcGIETcGIEXcGIPcGITcGIXcGOcGOPcGOTcGOXcGUcGUOcGUOPcGUOTcGUOXcGUPcGURcGURXcGUTcGUXcHAcHAP",
   "cHATcHAXcHEcHEPcHEXcHIEcHIEXcHITcHLAcHLAPcHLATcHLAXcHLEcHLEPcHLEXcHLIcHLIEcHLIEPcHLIEXcHLIP",
   "cHLITcHLIXcHLOcHLOPcHLOXcHLUcHLUOcHLUOPcHLUOXcHLUPcHLURcHLURXcHLUTcHLUXcHLYcHLYPcHLYRcHLYRX",
   "cHLYTcHLYXcHMAcHMAPcHMATcHMAXcHMIcHMIEcHMIEPcHMIEXcHMIPcHMITcHMIXcHMOcHMOPcHMOTcHMOXcHMUcHMUO",
   "cHMUOPcHMUOXcHMUPcHMURcHMURXcHMUTcHMUXcHMYcHMYPcHMYRcHMYRXcHMYXcHNAcHNAPcHNATcHNAXcHNEcHNEP",
   "cHNEXcHNIcHNIEcHNIEPcHNIETcHNIEXcHNIPcHNITcHNIXcHNOPcHNOTcHNOXcHNUOcHNUOXcHNUTcHOcHOPcHOTcHOX",
   "cHUOcHUOPcHUOTcHUOXcHXAcHXAPcHXATcHXAXcHXEcHXEPcHXEXcHXIcHXIEcHXIEPcHXIETcHXIEXcHXIPcHXITcHXIX",
   "cHXOcHXOPcHXOTcHXOXcHXUOcHXUOPcHXUOTcHXUOXcIcIEcIEPcIETcIEXcIPcITcITERATION MARKcIXcJIcJIEcJIEP",
   "cJIETcJIEXcJIPcJITcJIXcJJIcJJIEcJJIEPcJJIETcJJIEXcJJIPcJJITcJJIXcJJOcJJOPcJJOTcJJOXcJJUcJJUO",
   "cJJUOPcJJUOXcJJUPcJJURcJJURXcJJUTcJJUXcJJYcJJYPcJJYTcJJYXcJOcJOPcJOTcJOXcJUcJUOcJUOPcJUOTcJUOX",
   "cJUPcJURcJURXcJUTcJUXcJYcJYPcJYRcJYRXcJYTcJYXcKAcKAPcKATcKAXcKEcKEPcKETcKEXcKIcKIEcKIEPcKIEX",
   "cKIPcKITcKIXcKOcKOPcKOTcKOXcKUcKUOcKUOPcKUOXcKUPcKURcKURXcKUTcKUXcLAcLAPcLATcLAXcLEcLEPcLEXcLI",
   "cLIEcLIEPcLIETcLIEXcLIPcLITcLIXcLOcLOPcLOTcLOXcLUcLUOcLUOPcLUOTcLUOXcLUPcLURcLURXcLUTcLUXcLY",
   "cLYPcLYRcLYRXcLYTcLYXcMAcMAPcMATcMAXcMEcMEXcMGAcMGAPcMGATcMGAXcMGEcMGEPcMGEXcMGIEcMGIEXcMGO",
   "cMGOPcMGOTcMGOXcMGUcMGUOcMGUOPcMGUOXcMGUPcMGURcMGURXcMGUTcMGUXcMIcMIEcMIEPcMIEXcMIPcMITcMIXcMO",
   "cMOPcMOTcMOXcMUcMUOcMUOPcMUOTcMUOXcMUPcMURcMURXcMUTcMUXcMYcMYPcMYTcMYXcNAcNAPcNAXcNBAcNBAPcNBAT",
   "cNBAXcNBIcNBIEcNBIEPcNBIEXcNBIPcNBITcNBIXcNBOcNBOPcNBOTcNBOXcNBUcNBUPcNBURcNBURXcNBUTcNBUXcNBY",
   "cNBYPcNBYRcNBYRXcNBYTcNBYXcNDAcNDAPcNDATcNDAXcNDEcNDEPcNDEXcNDIcNDIEcNDIEXcNDIPcNDITcNDIXcNDO",
   "cNDOPcNDOTcNDOXcNDUcNDUPcNDURcNDURXcNDUTcNDUXcNEcNEPcNEXcNGAcNGAPcNGATcNGAXcNGEcNGEPcNGEXcNGIE",
   "cNGIEPcNGIEXcNGOcNGOPcNGOTcNGOXcNGUOcNGUOTcNGUOXcNIcNIEcNIEPcNIEXcNIPcNITcNIXcNJIcNJIEcNJIEP",
   "cNJIETcNJIEXcNJIPcNJITcNJIXcNJOcNJOPcNJOTcNJOXcNJUcNJUOcNJUOXcNJUPcNJURcNJURXcNJUXcNJYcNJYP",
   "cNJYRcNJYRXcNJYTcNJYXcNOcNOPcNOTcNOXcNRAcNRAPcNRATcNRAXcNREcNREPcNRETcNREXcNROcNROPcNROXcNRU",
   "cNRUPcNRURcNRURXcNRUTcNRUXcNRYcNRYPcNRYRcNRYRXcNRYTcNRYXcNUcNUOcNUOPcNUOXcNUPcNURcNURXcNUTcNUX",
   "cNYIcNYIEcNYIEPcNYIETcNYIEXcNYIPcNYITcNYIXcNYOcNYOPcNYOTcNYOXcNYUcNYUOcNYUOPcNYUOXcNYUPcNYUT",
   "cNYUXcNZAcNZAPcNZATcNZAXcNZEcNZEXcNZIcNZIEcNZIEPcNZIEXcNZIPcNZITcNZIXcNZOPcNZOXcNZUcNZUOcNZUOX",
   "cNZUPcNZURcNZURXcNZUXcNZYcNZYPcNZYRcNZYRXcNZYTcNZYXcOcOPcOTcOXcPAcPAPcPATcPAXcPIcPIEcPIEPcPIEX",
   "cPIPcPITcPIXcPOcPOPcPOTcPOXcPUcPUOcPUOPcPUOXcPUPcPURcPURXcPUTcPUXcPYcPYPcPYRcPYRXcPYTcPYXcQI",
   "cQIEcQIEPcQIETcQIEXcQIPcQITcQIXcQOcQOPcQOTcQOXcQUcQUOcQUOPcQUOTcQUOXcQUPcQURcQURXcQUTcQUXcQY",
   "cQYPcQYRcQYRXcQYTcQYXcRAcRAPcRATcRAXcREcREPcREXcROcROPcROTcROXcRRAcRRAXcRREcRREPcRRETcRREXcRRO",
   "cRROPcRROTcRROXcRRUcRRUOcRRUOXcRRUPcRRURcRRURXcRRUTcRRUXcRRYcRRYPcRRYRcRRYRXcRRYTcRRYXcRUcRUO",
   "cRUOPcRUOXcRUPcRURcRURXcRUTcRUXcRYcRYPcRYRcRYRXcRYTcRYXcSAcSAPcSATcSAXcSEcSEPcSEXcSHAcSHAPcSHAT",
   "cSHAXcSHEcSHEPcSHETcSHEXcSHOcSHOPcSHOTcSHOXcSHUcSHUOcSHUOPcSHUOXcSHUPcSHURcSHURXcSHUTcSHUXcSHY",
   "cSHYPcSHYRcSHYRXcSHYTcSHYXcSIcSIEcSIEPcSIEXcSIPcSITcSIXcSOcSOPcSOTcSOXcSSAcSSAPcSSATcSSAXcSSE",
   "cSSEPcSSEXcSSIcSSIEcSSIEPcSSIEXcSSIPcSSITcSSIXcSSOcSSOPcSSOTcSSOXcSSUcSSUPcSSUTcSSUXcSSYcSSYP",
   "cSSYRcSSYRXcSSYTcSSYXcSUcSUOcSUOPcSUOXcSUPcSURcSURXcSUTcSUXcSYcSYPcSYRcSYRXcSYTcSYXcTAcTAPcTAT",
   "cTAXcTEcTEPcTEXcTIcTIEcTIEPcTIEXcTIPcTITcTIXcTOcTOPcTOTcTOXcTUcTUOcTUOPcTUOTcTUOXcTUPcTURcTURX",
   "cTUTcTUXcUOcUOPcUOXcVAcVAPcVATcVAXcVEPcVEXcVIcVIEcVIEPcVIETcVIEXcVIPcVITcVIXcVOcVOPcVOTcVOXcVU",
   "cVUPcVURcVURXcVUTcVUXcVYcVYPcVYRcVYRXcVYTcVYXcWAcWAPcWATcWAXcWEcWEPcWEXcWOcWOPcWOXcWUcWUOcWUOP",
   "cWUOXcXIcXIEcXIEPcXIETcXIEXcXIPcXITcXIXcXOcXOPcXOTcXOXcXUOcXUOXcXYcXYPcXYRcXYRXcXYTcXYXcYIcYIE",
   "cYIEPcYIETcYIEXcYIPcYITcYIXcYOcYOPcYOTcYOXcYUcYUOcYUOPcYUOTcYUOXcYUPcYURcYURXcYUTcYUXcYYcYYP",
   "cYYRcYYRXcYYTcYYXcZAcZAPcZATcZAXcZEcZEPcZEXcZHAcZHAPcZHATcZHAXcZHEcZHEPcZHETcZHEXcZHOcZHOPcZHOT",
   "cZHOXcZHUcZHUOcZHUOPcZHUOXcZHUPcZHURcZHURXcZHUTcZHUXcZHYcZHYPcZHYRcZHYRXcZHYTcZHYXcZIcZIEcZIEP",
   "cZIEXcZIPcZITcZIXcZOcZOPcZOTcZOXcZUcZUOcZUOPcZUOXcZUPcZURcZURXcZUTcZUXcZYcZYPcZYRcZYRXcZYTcZYX",
   "cZZAcZZAPcZZATcZZAXcZZEcZZEPcZZEXcZZIcZZIEcZZIEPcZZIETcZZIEXcZZIPcZZITcZZIXcZZOcZZOPcZZOXcZZU",
   "cZZUPcZZURcZZURXcZZUXcZZYcZZYPcZZYRcZZYRXcZZYTcZZYXaYIN YANGaYO-YOaZ NOTATION BAG MEMBERSHIP",
   "cDOMAIN ANTIRESTRICTIONcLEFT BINDING BRACKETdIMAGE BRACKETcRANGE ANTIRESTRICTION",
   "cRELATIONAL COMPOSITIONcRIGHT BINDING BRACKETdIMAGE BRACKETcSCHEMA COMPOSITIONdPIPING",
   "dPROJECTIONcSPOTcTYPE COLONaZANABAZAR SQUARE CLOSING DOUBLE-LINED HEAD MARKdHEAD MARK",
   "cCLUSTER-FINAL LETTER LAfRAfVAfYAdINITIAL LETTER RAcFINAL CONSONANT MARK",
   "cINITIAL DOUBLE-LINED HEAD MARKdHEAD MARKcLETTER -AdAdBAdBHAdCAdCHAdDAdDDAdDDHAdDHAdDZAdDZHAdGA",
   "dGHAdHAdJAdKAdKHAdKSSAdLAdMAdNAdNGAdNNAdNYAdPAdPHAdRAdSAdSHAdSSAdTAdTHAdTSAdTSHAdTTAdTTHAdVAdYA",
   "dZAdZHAcMARK DOUBLE SHADdLONG TSHEGdSHADdTSHEGcSIGN ANUSVARAdCANDRA WITH ORNAMENTdCANDRABINDU",
   "dCANDRABINDU WITH ORNAMENTdVIRAMAdVISARGAcSUBJOINERcVOWEL LENGTH MARKdSIGN AIeAUeEeIeOeOE",
   "eREVERSED IeUeUEaZEBRA FACEaZERO WIDTH JOINERcNO-BREAK SPACEcNON-JOINERcSPACEaZEUS",
   "aZIPPER-MOUTH FACEaZNAMENNY COMBINING ATTACHING VERTICAL OMETcLOWER TONAL RANGE INDICATOR",
   "cMARK BORZAYAdCHASHKAdCHASHKA POLNAYAdCURVED OMETdDEMESTVENNY ZADERZHKAdDVOETOCHIE",
   "dGORAZDO NIZKO ON LEFTgRIGHTfS KRYZHEM ON LEFTiRIGHTeVYSOKOdKACHKAdKRYZHdKRYZH ON LEFTdKUPNAYA",
   "dLOMKAdMALO POVYSHE ON LEFTgRIGHTfS KHOKHLOM ON LEFTiRIGHTgKRYZHEMfSTRANNOdNIZKO ON LEFTfRIGHT",
   "eS KRYZHEM ON LEFThRIGHTdOBLACHKOdONdOTSECHKAdPODCHASHIEdPODCHASHIE WITH VERTICAL STROKE",
   "dPODVERTKAdPOVYSHE ON LEFTfRIGHTeS KHOKHLOM ON LEFThRIGHTfKRYZHEMeSTRANNOdRAVNOdRAZSEKAdSKOBA",
   "dSOROCHYA NOZHKAdSREDNE ON LEFTfRIGHTdSTRANNO MALO POVYSHEdTIKHAYAdTOCHKAdTSATA ON LEFTfRIGHT",
   "eS KRYZHEMdUDARKAdVYSOKO ON LEFTfRIGHTeS KHOKHLOM ON LEFThRIGHTfKRYZHEMdZADERZHKAdZELOdZEVOK",
   "cTONAL RANGE MARK MRACHNOfSVETLOfTRESVETLObNEUME CHASHKAcCHELYUSTKAcDEMESTVENNY KLYUCHcDERBITSA",
   "cDOUBLE ZAPYATAYAcDUDAcDVA V CHELNUcFITAcGOLUBCHIK BORZYdMRACHNYdSVETLYdTIKHYdTRESVETLYcKHAMILO",
   "cKLYUCHcKOBYLAcKRYUKcKRYUK TIKHYcKRYZHcKUFISMAcMECHIKcMECHIK KLYUCHENEPOSTOYANNYdKLYUCHEPOVODNY",
   "dKLYUCHEVOYdPOVODNYcNEMKAcOBLAKOcOSOKAcOSOKA KLYUCHEVAYA NEPOSTOYANNAYAeSVETLAYA",
   "dKRYUKOVAYA SVETLAYAdSVETLAYAdTRESVETLAYAcPALKAcPARAKLITcPAUKcPEREVODKA",
   "cPEREVODKA NEPOSTOYANNAYAcPODCHASHIEcPOLKULIZMYcREVERSED CHELYUSTKAcROG",
   "cSKAMEYTSA DVOECHELNAYA KLYUCHEVAYAeNEPOSTOYANNAYAePROSTAYAeSVETLAYAdKLYUCHENEPOSTOYANNAYA",
   "dKLYUCHEVAYA SVETLAYAeTIKHAYAdMRACHNAYAdSVETLAYAdTIKHAYAdTRESVETLAYAcSLOZHITIE",
   "cSLOZHITIE S KRYZHEMeZAPYATOYdZAKRYTOEcSTATYAcSTATYA NEPOSTOYANNAYAdS DVUMYA ZAPYATYMIeKRYZHEM",
   "eKRYZHEM I ZAPYATOYeROGOMeZAPYATOYeZAPYATOY I KRYZHEMgPODCHASHIEMdZAKRYTAYA",
   "dZAKRYTAYA S ZAPYATOYcSTOPITSAcSTOPITSA S OCHKOMdWITH SOROCHYA NOZHKAcSTRELA DVOECHELNAYA",
   "dDVOECHELNAYA KLYUCHEVAYAdDVOECHELNOKRYZHEVAYAdDVOECHELNOPOVODNAYA",
   "dDVOECHELNOPOVODNAYA KLYUCHEVAYAdGROMNAYAdGROMNAYA WITH SINGLE ZAPYATAYAdGROMOKRYZHEVAYA",
   "dGROMOKRYZHEVAYA POVODNAYAdGROMOPOVODNAYAdGROMOPOVODNAYA WITH DOUBLE ZAPYATAYAfSINGLE ZAPYATAYA",
   "dKLYUCHENEPOSTOYANNAYAdKLYUCHEPOVODNAYAdKRYUKOVAYAdKRYUKOVAYA GROMNAYA",
   "eGROMNAYA WITH SINGLE ZAPYATAYAeGROMOKRYZHEVAYAeGROMOKRYZHEVAYA POVODNAYAeGROMOPOVODNAYA",
   "eGROMOPOVODNAYA WITH DOUBLE ZAPYATAYAgSINGLE ZAPYATAYAePOVODNAYAeTRYASKAdKRYZHEVAYA",
   "dMRACHNOTIKHAYAdNEPOSTOYANNAYAdPOLUPOVODNAYAdPOVODNAYAdPROSTAYAdTIKHAYA PUTNAYAdTRYASOGLASNAYA",
   "dTRYASOPOVODNAYAdTRYASOSTRELNAYAcVRAKHIYA KLYUCHEVAYA MRACHNAYAePROSTAYAeSVETLAYAeTRESVETLAYA",
   "dMRACHNAYAdPROSTAYAdSVETLAYAdTRESVETLAYAcZANOZHEKcZAPYATAYAcZMEYTSA",
   "bPRIZNAK MODIFIER DIRECTION FLIPdKRYZHdLEVEL-2e3dROGaZOMBIEaZWJaZWNBSPaZWNJaZWSP"]

def rows : List String := firstPart ++ secondPart ++ thirdPart ++ fourthPart

end PluginSearch.CharacterNameTable
