/-!
# The table of character names

The names of the characters, their other names among them, by their first letter and in alphabetical
order. Blanks stand between the entries of a table. An entry starts with lower-case letters, whose values
add up to the number of characters that its name shares with the one before it: `a` is 0 and `z` is 25. The
other characters of the name follow, with an underscore for each space.
-/

namespace EditorAssist.Text

def namesWithA : String := "
aABACUS bC_CURRENT cCORDION eUNT_OF cK dNOWLEDGE cTIVATE_ARABIC_FORM_SHAPING jSYMMETRIC_SWAPPING
cUTE_ACCENT hNGLE bDDRESSED_TO_THE_SUBJECT cHESIVE_BANDAGE cI_SHAKTI cLAM_ALIF_LENGTHENER
gCAPITAL_LETTER_ALIF vBA wHE vCHI vDAALI wHA vE vFA vGA wBE vHA vI vJIIM vKAF wHA wPO vLAAM vMIIM
vNHA wUN wYA vO vPE vQAAF vRA vSHA wINNYIIYHE vTU vU vVA vWAW vYA wHE vZAL hONSONANT_MODIFIER
gDIGIT_EIGHT mFIVE nOUR mNINE mONE mSEVEN nIX mTHREE nWO mZERO gGEMINATE_CONSONANT_MODIFIER
nION_MARK gHAMZA gINITIAL_EXCLAMATION_MARK oQUESTION_MARK gNASALIZATION_MARK hUKTA
gSMALL_LETTER_ALIF tBA uHE tCHI tDAALI uHA tE tFA tGA uBE tHA tI tJIIM tKAF uHA uPO tLAAM tMIIM tNHA
uUN uYA tO tPE tQAAF tRA tSHA uINNYIIYHE tTU tU tVA tWAW tYA uHE tZAL gVOWEL_LENGTHENER cMETOS
dISSION_TICKETS cULT bEGEAN_CHECK_MARK hDRY_MEASURE_FIRST_SUBUNIT hLIQUID_MEASURE_FIRST_SUBUNIT
hMEASURE_SECOND_SUBUNIT pTHIRD_SUBUNIT hNUMBER_EIGHT t_HUNDRED uTHOUSAND tY u_THOUSAND oFIFTY
t_THOUSAND qVE s_HUNDRED tTHOUSAND pORTY t_THOUSAND qUR s_HUNDRED tTHOUSAND oNINE s_HUNDRED
tTHOUSAND sTY u_THOUSAND oONE r_HUNDRED sTHOUSAND oSEVEN t_HUNDRED uTHOUSAND tTY v_THOUSAND pIX
r_HUNDRED sTHOUSAND rTY t_THOUSAND oTEN r_THOUSAND pHIRTY u_THOUSAND qREE t_HUNDRED uTHOUSAND pWENTY
u_THOUSAND qO r_HUNDRED sTHOUSAND hWEIGHT_BASE_UNIT oFIRST_SUBUNIT pOURTH_SUBUNIT oSECOND_SUBUNIT
oTHIRD_SUBUNIT iORD_SEPARATOR_DOT wLINE cRIAL_TRAMWAY bFGHANI_SIGN bHOM_CONSONANT_SIGN_MEDIAL_LA
zdIGATING_RA zcRA fDIGIT_EIGHT lFIVE mOUR lNINE lONE lSEVEN mIX lTHREE mWO lZERO fLETTER_A
nLTERNATE_BA wGA wTA mBA nHA mCA nHA mDA nDA oHA nHA mGA nHA mHA mJA nHA mKA nHA mLA nLA mMA mNA nGA
nNA nYA mPA nHA mRA mSA mTA nHA nTA oHA fNUMBER_TEN nWENTY fSIGN_KILLER kRULAI kSECTION
lMALL_SECTION gYMBOL_VI fVOWEL_SIGN_A rA rI rM rW qE qI rI qO qU rU bIRPLANE i_ARRIVING jDEPARTURE
bKTIESELSKAB bLARM_CLOCK cCHEMICAL_SYMBOL_FOR_AIR xLEMBIC yKALI zd-2 yUM xMALGAM xNTIMONY_ORE
xQUA_REGIA zh-2 zcVITAE zh-2 zbFORTIS xRSENIC xSHES xURIPIGMENT wBATH_OF_MARY zfVAPOURS xISMUTH_ORE
xLACK_SULFUR xORAX zc-2 zd3 xRICK wCADUCEUS yLX yPUT_MORTUUM xINNABAR xOPPER_ANTIMONIATE zeORE
xROCUS_OF_COPPER zn-2 zhIRON yUCIBLE zf-2 zg3 zg4 zg5 wDAY-NIGHT xISSOLVE zf-2 zTILL wEARTH wFIRE
wGOLD xUM wHALF_DRAM zcOUNCE xORSE_DUNG yUR wIRON_ORE zf-2 zb-COPPER_ORE wLEAD_ORE xODESTONE
wMARCASITE xERCURY_SUBLIMATE zo-2 zp3 xONTH wNIGHT yTRE wOIL wPHILOSOPHERS_SULFUR xOT_ASHES yWDER
zdED_BRICK xRECIPITATE xURIFY yTREFACTION wQUICK_LIME zNTESSENCE wREALGAR ze-2 yGULUS ze_OF_ANTIMONY
zq-2 ziIRON ze-2 zf3 zf4 yTORT xOCK_SALT zg-2 wSAL-AMMONIAC zT zb_OF_ANTIMONY zfCOPPER_ANTIMONIATE
xCEPTER_OF_JOVE xILVER xOAP xPIRIT xTARRED_TRIDENT yRATUM_SUPER_STRATUM zs-2 xUBLIMATE_OF_ANTIMONY
zkCOPPER zkSALT_OF_ANTIMONY zsCOPPER zfION yLFUR wTARTAR zd-2 xIN_ORE zCTURE xRIDENT xUTTY wURINE
wVERDIGRIS xINEGAR ze_OF_ANTIMONY ze-2 zf3 yTRIOL ze-2 wWATER yX cEF_SYMBOL dMBIC dRT cIEN_MONSTER
cL_AROUND-PROFILE eEQUAL_TO cM dOST_EQUAL_OR_EQUAL_TO nTO p_WITH_CIRCUMFLEX_ACCENT
cTERNATE_ONE-WAY_LEFT_WAY_TRAFFIC iIVE_KEY_SYMBOL bMALGAMATION_OR_COPRODUCT cBULANCE
cERICAN_FOOTBALL cPERSAND dHORA bNATOLIAN_HIEROGLYPH_A001 y2 y3 y4 y5 y6 y7 y8 y9 x10 zA y1 y2 y3 y4
y5 y6 y7 y8 y9 x20 y1 y2 y3 y4 y5 y6 zA y7 y8 y9 x30 y1 y2 y3 y4 y5 y6 y7 y8 y9 zA x40 y1 zA y2 y3
y4 y5 zA y6 zA zB y7 y8 y9 x50 y1 y2 y3 y4 y5 y6 y7 y8 y9 x60 y1 y2 y3 y4 y5 y6 zA zB zC y7 y8 y9
x70 y1 y2 y3 y4 y5 y6 y7 y8 y9 x80 y1 y2 y3 y4 y5 y6 y7 y8 y9 x90 y1 y2 y3 y4 y5 y6 y7 zA y8 zA y9
w100 zA y1 zA y2 zA y3 y4 zA zB zC y5 zA zB y6 y7 zA zB zC y8 y9 x10 zA zB y1 y2 y3 y4 y5 zA y6 y7
y8 y9 x20 y1 y2 y3 y4 y5 zA y6 y7 y8 y9 x30 y1 y2 y3 y4 y5 zA y6 y7 y8 y9 x40 y1 y2 y3 y4 y5 y6 y7
y8 y9 x50 y1 y2 y3 y4 y5 y6 y7 y8 y9 x60 y1 y2 y3 y4 y5 y6 y7 y8 y9 x70 y1 y2 y3 y4 y5 y6 y7 y8 y9
x80 y1 y2 y3 y4 y5 y6 y7 y8 y9 x90 y1 y2 y3 y4 y5 y6 y7 y8 y9 w200 y1 y2 zA zB y3 y4 y5 y6 y7 zA y8
y9 zA x10 y1 y2 y3 y4 y5 zA y6 zA y7 y8 y9 x20 y1 y2 y3 y4 y5 y6 y7 zA y8 y9 x30 y1 y2 y3 y4 y5 y6
y7 y8 y9 x40 y1 y2 y3 y4 y5 y6 y7 y8 y9 x50 y1 y2 y3 y4 y5 y6 y7 y8 y9 x60 y1 y2 y3 y4 y5 y6 y7 zA
y8 y9 x70 y1 y2 y3 y4 y5 y6 y7 y8 y9 x80 y1 y2 y3 y4 y5 y6 y7 y8 y9 zA x90 y1 y2 y3 y4 zA y5 y6 y7
y8 y9 zA w300 y1 y2 y3 y4 y5 y6 y7 y8 y9 zA x10 y1 y2 y3 y4 y5 y6 y7 y8 y9 x20 y1 y2 y3 y4 y5 y6 y7
y8 y9 zA x30 y1 y2A zB zC y3 y4 y5 y6 zA zB zC y7 y8 y9 x40 y1 y2 y3 y4 y5 y6 y7 y8 y9 x50 y1 y2 y3
y4 y5 y6 y7 y8 y9 zA x60 y1 y2 y3 y4 zA y5 y6 y7 y8 zA y9 x70 y1 zA y2 y3 y4 y5 y6 y7 y8 y9 x80 y1
zA y2 y3_RA_OR_RI zA y4 y5 y6 zA y7 y8 y9 x90 y1 y2 y3_EIGHT y4 y5 y6 y7 y8 y9 w400 y1 y2 y3 y4 y5
y6 y7 y8 y9 x10_BEGIN_LOGOGRAM_MARK zA_END_LOGOGRAM_MARK y1 y2 y3 y4 y5 y6 y7 y8 y9 x20 y1 y2 y3 y4
y5 y6 y7 y8 y9 x30 y1 y2 y3 y4 y5 y6 y7 y8 y9 x40 y1 y2 y3 y4 y5 y6 y7 y8 y9 x50 zA y1 y2 y3 y4 y5
y6 y7 zA y8 y9 x60 y1 y2 y3 y4 y5 y6 y7 y8 y9 x70 y1 y2 y3 y4 y5 y6 y7 y8 y9 x80 y1 y2 y3 y4 y5 y6
y7 y8 y9 x90 y1 y2 y3 y4 y5 y6 y7 w501 y2 y3 y4 y5 y6 y7 y8 y9 x10 y1 y2 y3 y4 y5 y6 y7 y8 y9 x20 y1
y2 y3 y4 y5 y6 y7 y8 y9 x30 fMICAL_HEART cCHOR cD_WITH_DOT cGER_SYMBOL dLE f_WITH_S_INSIDE lUNDERBAR
dRY_FACE dSTROM_SIGN dUISHED_FACE cKH cT dENNA_WITH_BARS dICLOCKWISE_CLOSED_CIRCLE_ARROW
pONTOUR_INTEGRAL oDOWNWARDS_AND_UPWARDS_OPEN_CIRCLE_ARROWS oGAPPED_CIRCLE_ARROW oINTEGRATION
oOPEN_CIRCLE_ARROW oTOP_SEMICIRCLE_ARROW pRIANGLE-HEADED_BOTTOM_U-SHAPED_ARROW zfLEFT_U-SHAPED_ARROW
zfOPEN_CIRCLE_ARROW zfRIGHT_U-SHAPED_ARROW zfTOP_U-SHAPED_ARROW bPC cL_FUNCTIONAL_SYMBOL_ALPHA
zc_UNDERBAR wBACKSLASH_BAR wCIRCLE_BACKSLASH zeDIAERESIS zeJOT zeSTAR zgILE zeUNDERBAR xOMMA_BAR
wDEL_DIAERESIS zbSTILE zbTILDE zTA_STILE zdUNDERBAR xIAMOND_UNDERBAR xOWN_CARET_TILDE zcSHOE_STILE
zcTACK_JOT zhUNDERBAR zbWARDS_VANE wEPSILON_UNDERBAR wGREATER-THAN_DIAERESIS wI-BEAM xOTA
zb_UNDERBAR wJOT_DIAERESIS zbUNDERBAR wLEFT_SHOE_STILE zbWARDS_VANE wOMEGA zc_UNDERBAR wQUAD
zb_BACKSLASH zcCIRCLE zdOLON zcDEL zfTA zdIAMOND zeVIDE zdOWN_CARET zgWARDS_ARROW zcEQUAL
zcGREATER-THAN zcJOT zcLEFTWARDS_ARROW zeSS-THAN zcNOT_EQUAL zcQUESTION zcRIGHTWARDS_ARROW zcSLASH
zcUP_CARET zeWARDS_ARROW yOTE_QUAD zdUNDERBAR wRHO xIGHTWARDS_VANE wSEMICOLON_UNDERBAR xLASH_BAR
xQUISH_QUAD xTAR_DIAERESIS yILE_TILDE wTILDE_DIAERESIS wUP_CARET_TILDE zSHOE_JOT zTACK_DIAERESIS
zfJOT zfOVERBAR yWARDS_VANE wZILDE cOLLON dSTROPHE cPLICATION_PROGRAM_COMMAND dROACHES_THE_LIMIT
fXIMATELY_BUT_NOT_ACTUALLY_EQUAL_TO oEQUAL_OR_EQUAL_TO uTO w_OR_THE_IMAGE_OF bQUARIUS
bRABIC_BASELINE_ROUND_DOT hCOMMA iURLY_DAMMA sTAN nFATHA sTAN nKASRA sTAN hDAMMA m_ISOLATED_FORM
nMEDIAL_FORM nWITH_DOT mTAN p_ISOLATED_FORM jTE_SEPARATOR iECIMAL_SEPARATOR iISPUTED_END_OF_AYAH
iOUBLE_RIGHT_ARROWHEAD_ABOVE zk_WITH_DOT nD_MADDA hEMPTY_CENTRE_HIGH_STOP uLOW_STOP iND_OF_AYAH
oTEXT_MARK hFATHA m_ISOLATED_FORM nMEDIAL_FORM nWITH_DOT_ABOVE sRING sTWO_DOTS mTAN p_ISOLATED_FORM
iIVE_POINTED_STAR iOOTNOTE_MARKER iULL_STOP hHALF_MADDA_OVER_MADDA jMZA_ABOVE nBELOW hINVERTED_DAMMA
hKASRA m_ISOLATED_FORM nMEDIAL_FORM nWITH_DOT_BELOW mTAN p_ISOLATED_FORM hLARGE_CIRCLE_BELOW
nROUND_DOT_ABOVE xBELOW xINSIDE_CIRCLE_BELOW iEFT_ARROWHEAD_ABOVE wBELOW jTTER_AE pFRICAN_FEH wNOON
wQAF z_WITH_THREE_DOTS_ABOVE pIN r_FINAL_FORM sINITIAL_FORM tSOLATED_FORM sMEDIAL_FORM
sWITH_THREE_DOTS_ABOVE zjBELOW zjPOINTING_DOWNWARDS_ABOVE yWO_DOTS_ABOVE zhVERTICALLY_ABOVE pLEF
s_FINAL_FORM tISOLATED_FORM tMAKSURA zb_FINAL_FORM zcISOLATED_FORM tWASLA y_FINAL_FORM
zISOLATED_FORM uITH_ATTACHED_BOTTOM_RIGHT_KASRA zzb_AND_DOT_ABOVE zzgLEFT_RING ziFATHA ziKASRA
ziLEFT_HAMZA znROUND_DOT ziRIGHT_HAMZA zoROUND_DOT zjOUND_DOT_ABOVE zsBELOW ziTOP_RIGHT_FATHA
zx_AND_DOT_ABOVE zzdLEFT_RING yDOT_ABOVE yEXTENDED_ARABIC-INDIC_DIGIT_THREE_ABOVE zzdWO_ABOVE
yHAMZA_ABOVE zk_FINAL_FORM zlISOLATED_FORM zfBELOW zk_FINAL_FORM zlISOLATED_FORM yLEFT_MIDDLE_STROKE
yMADDA_ABOVE zk_FINAL_FORM zlISOLATED_FORM yRIGHT_MIDDLE_STROKE zs_AND_DOT_ABOVE zxLEFT_RING
yWAVY_HAMZA_ABOVE zkBELOW oBEEH s_FINAL_FORM tINITIAL_FORM uSOLATED_FORM tMEDIAL_FORM qH
r_FINAL_FORM sINITIAL_FORM tSOLATED_FORM sMEDIAL_FORM sWITH_DOT_BELOW_AND_THREE_DOTS_ABOVE
xHAMZA_ABOVE xINVERTED_SMALL_V_BELOW xSMALL_MEEM_ABOVE zeV zf_BELOW xTHREE_DOTS_HORIZONTALLY_BELOW
zjPOINTING_UPWARDS_BELOW zzg_AND_TWO_DOTS_ABOVE yWO_DOTS_BELOW_AND_DOT_ABOVE rEH t_FINAL_FORM
uINITIAL_FORM vSOLATED_FORM uMEDIAL_FORM oDAD r_FINAL_FORM sINITIAL_FORM tSOLATED_FORM sMEDIAL_FORM
sWITH_DOT_BELOW qHAL t_FINAL_FORM uISOLATED_FORM qL r_FINAL_FORM sISOLATED_FORM sWITH_DOT_BELOW
zh_AND_SMALL_TAH xFOUR_DOTS_ABOVE xINVERTED_SMALL_V_BELOW zhV xRING xTHREE_DOTS_ABOVE_DOWNWARDS
zjBELOW yWO_DOTS_VERTICALLY_BELOW_AND_SMALL_TAH pDAHAL u_FINAL_FORM vISOLATED_FORM rL s_FINAL_FORM
tISOLATED_FORM pOTLESS_BEH wFEH wQAF pUL r_FINAL_FORM sISOLATED_FORM pYEH s_FINAL_FORM tINITIAL_FORM
uSOLATED_FORM tMEDIAL_FORM oE p_FINAL_FORM qINITIAL_FORM rSOLATED_FORM qMEDIAL_FORM oFARSI_YEH
x_FINAL_FORM yINITIAL_FORM zSOLATED_FORM yMEDIAL_FORM yWITH_EXTENDED_ARABIC-INDIC_DIGIT_FOUR_BELOW
zzhTHREE_ABOVE zziWO_ABOVE zeINVERTED_V zeTHREE_DOTS_ABOVE zfWO_DOTS_ABOVE pEH r_FINAL_FORM
sINITIAL_FORM tSOLATED_FORM sMEDIAL_FORM sWITH_DOT_BELOW zh_AND_THREE_DOTS_ABOVE zcMOVED_BELOW
xTHREE_DOTS_BELOW zjPOINTING_UPWARDS_BELOW yWO_DOTS_BELOW oGAF r_FINAL_FORM sINITIAL_FORM
tSOLATED_FORM sMEDIAL_FORM sWITH_INVERTED_STROKE xRING xTHREE_DOTS_ABOVE yWO_DOTS_BELOW pHAIN
t_FINAL_FORM uINITIAL_FORM vSOLATED_FORM uMEDIAL_FORM uWITH_DOT_BELOW zTHREE_DOTS_ABOVE pRAF pUEH
s_FINAL_FORM tINITIAL_FORM uSOLATED_FORM tMEDIAL_FORM oHAH r_FINAL_FORM sINITIAL_FORM tSOLATED_FORM
sMEDIAL_FORM sWITH_EXTENDED_ARABIC-INDIC_DIGIT_FOUR_BELOW xHAMZA_ABOVE xINVERTED_SMALL_V_BELOW
xSMALL_ARABIC_LETTER_TAH_ABOVE zxND_TWO_DOTS zwBELOW xTHREE_DOTS_ABOVE zjPOINTING_UPWARDS_BELOW
yWO_DOTS_ABOVE zhVERTICAL_ABOVE qMZA t_ISOLATED_FORM pEH r_DOACHASHMEE ze_FINAL_FORM zfINITIAL_FORM
zgSOLATED_FORM zfMEDIAL_FORM sFINAL_FORM sGOAL w_FINAL_FORM xINITIAL_FORM ySOLATED_FORM xMEDIAL_FORM
xWITH_HAMZA_ABOVE sINITIAL_FORM tSOLATED_FORM sMEDIAL_FORM sWITH_INVERTED_V xYEH_ABOVE zh_FINAL_FORM
ziISOLATED_FORM pIGH_HAMZA y_ALEF zWAW zYEH oJEEM s_FINAL_FORM tINITIAL_FORM uSOLATED_FORM
tMEDIAL_FORM tWITH_THREE_DOTS_ABOVE zkBELOW zWO_DOTS_ABOVE qH r_FINAL_FORM sISOLATED_FORM oKAF
r_FINAL_FORM sINITIAL_FORM tSOLATED_FORM sMEDIAL_FORM sWITH_DOT_ABOVE zcBELOW xRING
xTHREE_DOTS_BELOW yWO_DOTS_ABOVE qSHMIRI_YEH pEHEH t_FINAL_FORM uINITIAL_FORM vSOLATED_FORM
uMEDIAL_FORM uWITH_DOT_ABOVE zSMALL_V zTHREE_DOTS_ABOVE zlBELOW zlPOINTING_UPWARDS_BELOW
zbWO_DOTS_ABOVE zjVERTICALLY_BELOW pHAH s_FINAL_FORM tINITIAL_FORM uSOLATED_FORM tMEDIAL_FORM
pIRGHIZ_OE y_FINAL_FORM zISOLATED_FORM wYU y_FINAL_FORM zISOLATED_FORM oLAM r_FINAL_FORM
sINITIAL_FORM tSOLATED_FORM sMEDIAL_FORM sWITH_BAR xDOT_ABOVE zUBLE_BAR
xSMALL_ARABIC_LETTER_TAH_ABOVE zeV xTHREE_DOTS_ABOVE zjBELOW pOW_ALEF oMARK pEEM s_FINAL_FORM
tINITIAL_FORM uSOLATED_FORM tMEDIAL_FORM tWITH_DOT_ABOVE zdBELOW yTHREE_DOTS_ABOVE oNG q_FINAL_FORM
rINITIAL_FORM sSOLATED_FORM rMEDIAL_FORM qOEH t_FINAL_FORM uINITIAL_FORM vSOLATED_FORM uMEDIAL_FORM
pOON s_FINAL_FORM tGHUNNA z_FINAL_FORM zbISOLATED_FORM tINITIAL_FORM uSOLATED_FORM tMEDIAL_FORM
tWITH_DOT_BELOW yINVERTED_SMALL_V yRING ySMALL_TAH zfV yTHREE_DOTS_ABOVE zWO_DOTS_BELOW pYEH
s_FINAL_FORM tINITIAL_FORM uSOLATED_FORM tMEDIAL_FORM oOE q_FINAL_FORM rISOLATED_FORM oPEH
r_FINAL_FORM sINITIAL_FORM tSOLATED_FORM sMEDIAL_FORM sWITH_SMALL_MEEM_ABOVE zeV rEH t_FINAL_FORM
uINITIAL_FORM vSOLATED_FORM uMEDIAL_FORM oQAF r_FINAL_FORM sINITIAL_FORM tSOLATED_FORM sMEDIAL_FORM
sWITH_DOT_ABOVE zcBELOW zh_AND_NO_DOTS_ABOVE xTHREE_DOTS_ABOVE oREH r_FINAL_FORM sISOLATED_FORM
sWITH_DOT_BELOW zh_AND_DOT_ABOVE xFOUR_DOTS_ABOVE xHAMZA_ABOVE xINVERTED_V xLOOP xRING
xSMALL_ARABIC_LETTER_TAH_AND_TWO_DOTS zeNOON_ABOVE zeV zf_BELOW yTROKE xTWO_DOTS_ABOVE
zhVERTICALLY_ABOVE pNOON t_FINAL_FORM uINITIAL_FORM vSOLATED_FORM uMEDIAL_FORM pOHINGYA_YEH pREH
s_FINAL_FORM tISOLATED_FORM oSAD r_FINAL_FORM sINITIAL_FORM tSOLATED_FORM sMEDIAL_FORM
sWITH_THREE_DOTS_ABOVE zjBELOW yWO_DOTS_BELOW pEEN s_FINAL_FORM tINITIAL_FORM uSOLATED_FORM
tMEDIAL_FORM tWITH_DOT_BELOW_AND_DOT_ABOVE yEXTENDED_ARABIC-INDIC_DIGIT_FOUR_ABOVE yFOUR_DOTS_ABOVE
yINVERTED_V ySMALL_ARABIC_LETTER_TAH_AND_TWO_DOTS yTHREE_DOTS_BELOW zp_AND_THREE_DOTS_ABOVE
zWO_DOTS_VERTICALLY_ABOVE pHEEN t_FINAL_FORM uINITIAL_FORM vSOLATED_FORM uMEDIAL_FORM
uWITH_DOT_BELOW pTRAIGHT_WAW pUPERSCRIPT_ALEF pWASH_KAF oTAH r_FINAL_FORM sINITIAL_FORM
tSOLATED_FORM sMEDIAL_FORM sWITH_DOT_BELOW xTHREE_DOTS_ABOVE zjBELOW yWO_DOTS_ABOVE pCHEH
t_FINAL_FORM uINITIAL_FORM vSOLATED_FORM uMEDIAL_FORM uWITH_DOT_ABOVE zSMALL_V tEH v_FINAL_FORM
wINITIAL_FORM xSOLATED_FORM wMEDIAL_FORM pEH r_FINAL_FORM sINITIAL_FORM tSOLATED_FORM sMARBUTA
z_FINAL_FORM zbGOAL zbISOLATED_FORM tEDIAL_FORM sWITH_RING xSMALL_TEH_ABOVE zeV
xTHREE_DOTS_ABOVE_DOWNWARDS rEH t_FINAL_FORM uINITIAL_FORM vSOLATED_FORM uMEDIAL_FORM pHAL
s_FINAL_FORM tISOLATED_FORM qEH s_FINAL_FORM tINITIAL_FORM uSOLATED_FORM tMEDIAL_FORM qIN_YEH pTEH
s_FINAL_FORM tINITIAL_FORM uSOLATED_FORM tMEDIAL_FORM tWITH_SMALL_V sEH u_FINAL_FORM vINITIAL_FORM
wSOLATED_FORM vMEDIAL_FORM oU p_FINAL_FORM qISOLATED_FORM qWITH_HAMZA_ABOVE zh_ISOLATED_FORM
pIGHUR_KAZAKH_KIRGHIZ_ALEF_MAKSURA_INITIAL_FORM zyMEDIAL_FORM oVE q_FINAL_FORM rISOLATED_FORM qH
r_FINAL_FORM sINITIAL_FORM tSOLATED_FORM sMEDIAL_FORM oWAW r_FINAL_FORM sISOLATED_FORM
sWITH_DOT_ABOVE zcWITHIN xEXTENDED_ARABIC-INDIC_DIGIT_THREE_ABOVE zzcWO_ABOVE xHAMZA_ABOVE
zj_FINAL_FORM zkISOLATED_FORM xRING xTWO_DOTS_ABOVE oYEH r_BARREE y_FINAL_FORM zISOLATED_FORM
zWITH_EXTENDED_ARABIC-INDIC_DIGIT_THREE_ABOVE zzjWO_ABOVE zfHAMZA_ABOVE zq_FINAL_FORM
zrISOLATED_FORM sFINAL_FORM sINITIAL_FORM tSOLATED_FORM sMEDIAL_FORM sWITH_HAMZA_ABOVE zj_FINAL_FORM
zkINITIAL_FORM zlSOLATED_FORM zkMEDIAL_FORM xSMALL_V xTAIL yHREE_DOTS_BELOW
yWO_DOTS_BELOW_AND_DOT_ABOVE zrHAMZA_ABOVE zrSMALL_NOON_ABOVE pU q_FINAL_FORM rISOLATED_FORM oZAH
r_FINAL_FORM sINITIAL_FORM tSOLATED_FORM sMEDIAL_FORM qIN s_FINAL_FORM tISOLATED_FORM
tWITH_INVERTED_V_ABOVE iIGATURE_AIN_WITH_ALEF_MAKSURA_FINAL_FORM znISOLATED_FORM zJEEM_INITIAL_FORM
zgSOLATED_FORM zfWITH_MEEM_FINAL_FORM zpINITIAL_FORM zMEEM_INITIAL_FORM zgSOLATED_FORM
zfWITH_ALEF_MAKSURA_FINAL_FORM zkMEEM_FINAL_FORM zpINITIAL_FORM zkYEH_FINAL_FORM zYEH_FINAL_FORM
zeISOLATED_FORM rKBAR_ISOLATED_FORM rLAYHAA_AS-SALAAM vE_ISOLATED_FORM vI_AS-SALAAM zgTU_WAS-SALAAM
wM_AS-SALAAM xAA_AS-SALAAM sEF_MAKSURA_WITH_SUPERSCRIPT_ALEF_FINAL_FORM zzbISOLATED_FORM
vWITH_FATHATAN_FINAL_FORM zkISOLATED_FORM sLAH_ISOLATED_FORM rZZA_WA_JALL
qBEH_WITH_ALEF_MAKSURA_FINAL_FORM znISOLATED_FORM zHAH_INITIAL_FORM zfSOLATED_FORM
zeWITH_YEH_FINAL_FORM zbEH_INITIAL_FORM zeMEDIAL_FORM zJEEM_INITIAL_FORM zgSOLATED_FORM
zKHAH_INITIAL_FORM zgSOLATED_FORM zfWITH_YEH_FINAL_FORM zMEEM_FINAL_FORM zfINITIAL_FORM
zgSOLATED_FORM zfMEDIAL_FORM zNOON_FINAL_FORM zREH_FINAL_FORM zYEH_FINAL_FORM zeISOLATED_FORM
zZAIN_FINAL_FORM rISMILLAH_AR-RAHMAN_AR-RAHEEM qDAD_WITH_ALEF_MAKSURA_FINAL_FORM znISOLATED_FORM
zHAH_INITIAL_FORM zfSOLATED_FORM zeWITH_ALEF_MAKSURA_FINAL_FORM zjYEH_FINAL_FORM zJEEM_INITIAL_FORM
zgSOLATED_FORM zKHAH_INITIAL_FORM zgSOLATED_FORM zfWITH_MEEM_FINAL_FORM zpINITIAL_FORM
zMEEM_INITIAL_FORM zgSOLATED_FORM zREH_FINAL_FORM zeISOLATED_FORM zYEH_FINAL_FORM zeISOLATED_FORM
qFEH_WITH_ALEF_MAKSURA_FINAL_FORM znISOLATED_FORM zHAH_INITIAL_FORM zfSOLATED_FORM
zJEEM_INITIAL_FORM zgSOLATED_FORM zKHAH_INITIAL_FORM zgSOLATED_FORM zfWITH_MEEM_FINAL_FORM
zpINITIAL_FORM zMEEM_INITIAL_FORM zgSOLATED_FORM zfWITH_YEH_FINAL_FORM zYEH_FINAL_FORM
zeISOLATED_FORM qGHAIN_WITH_ALEF_MAKSURA_FINAL_FORM zpISOLATED_FORM zcJEEM_INITIAL_FORM
ziSOLATED_FORM zcMEEM_INITIAL_FORM ziSOLATED_FORM zhWITH_ALEF_MAKSURA_FINAL_FORM zmMEEM_FINAL_FORM
zmYEH_FINAL_FORM zcYEH_FINAL_FORM zgISOLATED_FORM qHAH_WITH_ALEF_MAKSURA_FINAL_FORM znISOLATED_FORM
zJEEM_INITIAL_FORM zgSOLATED_FORM zfWITH_YEH_FINAL_FORM zMEEM_INITIAL_FORM zgSOLATED_FORM
zfWITH_ALEF_MAKSURA_FINAL_FORM zkYEH_FINAL_FORM zYEH_FINAL_FORM zeISOLATED_FORM
rEH_WITH_ALEF_MAKSURA_ISOLATED_FORM zJEEM_INITIAL_FORM zgSOLATED_FORM zMEEM_INITIAL_FORM
zgSOLATED_FORM zfWITH_JEEM_INITIAL_FORM zkMEEM_INITIAL_FORM zSUPERSCRIPT_ALEF_INITIAL_FORM
zYEH_ISOLATED_FORM qJALLAJALALOUHOU rEEM_WITH_ALEF_MAKSURA_FINAL_FORM zoISOLATED_FORM
zbHAH_INITIAL_FORM zgSOLATED_FORM zfWITH_ALEF_MAKSURA_FINAL_FORM zkYEH_FINAL_FORM
zbMEEM_INITIAL_FORM zhSOLATED_FORM zgWITH_ALEF_MAKSURA_FINAL_FORM zlHAH_FINAL_FORM zpINITIAL_FORM
zlYEH_FINAL_FORM zbYEH_FINAL_FORM zfISOLATED_FORM qKAF_WITH_ALEF_FINAL_FORM zfISOLATED_FORM
zfMAKSURA_FINAL_FORM znISOLATED_FORM zHAH_INITIAL_FORM zfSOLATED_FORM zJEEM_INITIAL_FORM
zgSOLATED_FORM zKHAH_INITIAL_FORM zgSOLATED_FORM zLAM_FINAL_FORM zeINITIAL_FORM zfSOLATED_FORM
zeMEDIAL_FORM zMEEM_FINAL_FORM zfINITIAL_FORM zgSOLATED_FORM zfMEDIAL_FORM zfWITH_MEEM_FINAL_FORM
zpINITIAL_FORM zkYEH_FINAL_FORM zYEH_FINAL_FORM zeISOLATED_FORM rHAH_WITH_ALEF_MAKSURA_FINAL_FORM
zoISOLATED_FORM zbHAH_ISOLATED_FORM zbJEEM_INITIAL_FORM zhSOLATED_FORM zbMEEM_INITIAL_FORM
zhSOLATED_FORM zbYEH_FINAL_FORM zfISOLATED_FORM qLAM_WITH_ALEF_FINAL_FORM zfISOLATED_FORM
zfMAKSURA_FINAL_FORM znISOLATED_FORM zfWITH_HAMZA_ABOVE_FINAL_FORM zwISOLATED_FORM
zqBELOW_FINAL_FORM zwISOLATED_FORM zkMADDA_ABOVE_FINAL_FORM zwISOLATED_FORM zHAH_INITIAL_FORM
zfSOLATED_FORM zeWITH_ALEF_MAKSURA_FINAL_FORM zjMEEM_FINAL_FORM zoINITIAL_FORM zjYEH_FINAL_FORM
zbEH_INITIAL_FORM zJEEM_INITIAL_FORM zgSOLATED_FORM zfWITH_JEEM_FINAL_FORM zpINITIAL_FORM
zkMEEM_FINAL_FORM zpINITIAL_FORM zkYEH_FINAL_FORM zKHAH_INITIAL_FORM zgSOLATED_FORM
zfWITH_MEEM_FINAL_FORM zpINITIAL_FORM zMEEM_FINAL_FORM zfINITIAL_FORM zgSOLATED_FORM zfMEDIAL_FORM
zfWITH_HAH_FINAL_FORM zoINITIAL_FORM zkYEH_FINAL_FORM zYEH_FINAL_FORM zeISOLATED_FORM
qMEEM_WITH_ALEF_FINAL_FORM zgMAKSURA_ISOLATED_FORM zbHAH_INITIAL_FORM zgSOLATED_FORM
zfWITH_JEEM_INITIAL_FORM zkMEEM_INITIAL_FORM zkYEH_FINAL_FORM zbJEEM_INITIAL_FORM zhSOLATED_FORM
zgWITH_HAH_INITIAL_FORM zlKHAH_INITIAL_FORM zlMEEM_INITIAL_FORM zlYEH_FINAL_FORM zbKHAH_INITIAL_FORM
zhSOLATED_FORM zgWITH_JEEM_INITIAL_FORM zlMEEM_INITIAL_FORM zlYEH_FINAL_FORM zbMEEM_FINAL_FORM
zgINITIAL_FORM zhSOLATED_FORM zgWITH_YEH_FINAL_FORM zbYEH_ISOLATED_FORM rOHAMMAD_ISOLATED_FORM
qNOON_WITH_ALEF_MAKSURA_FINAL_FORM zoISOLATED_FORM zbHAH_INITIAL_FORM zgSOLATED_FORM
zfWITH_ALEF_MAKSURA_FINAL_FORM zkMEEM_INITIAL_FORM zkYEH_FINAL_FORM zcEH_INITIAL_FORM zfMEDIAL_FORM
zbJEEM_INITIAL_FORM zhSOLATED_FORM zgWITH_ALEF_MAKSURA_FINAL_FORM zlHAH_FINAL_FORM zpINITIAL_FORM
zlMEEM_FINAL_FORM zqINITIAL_FORM zlYEH_FINAL_FORM zbKHAH_INITIAL_FORM zhSOLATED_FORM
zbMEEM_FINAL_FORM zgINITIAL_FORM zhSOLATED_FORM zgMEDIAL_FORM zgWITH_ALEF_MAKSURA_FINAL_FORM
zlYEH_FINAL_FORM zbNOON_FINAL_FORM zbREH_FINAL_FORM zbYEH_FINAL_FORM zfISOLATED_FORM
zbZAIN_FINAL_FORM qQAF_WITH_ALEF_MAKSURA_FINAL_FORM znISOLATED_FORM zHAH_INITIAL_FORM zfSOLATED_FORM
zMEEM_INITIAL_FORM zgSOLATED_FORM zfWITH_HAH_FINAL_FORM zoINITIAL_FORM zkMEEM_FINAL_FORM
zkYEH_FINAL_FORM zYEH_FINAL_FORM zeISOLATED_FORM sLA_USED_AS_KORANIC_STOP_SIGN_ISOLATED_FORM
rUDDISA_SIRRAH qRADI_ALLAAHU_ANH zhAA zhUM zjAA ziNNA sHIMAHU_ALLAAH yM_ALLAAH sSOUL_ISOLATED_FORM
rEH_WITH_SUPERSCRIPT_ALEF_ISOLATED_FORM qSAD_WITH_ALEF_MAKSURA_FINAL_FORM znISOLATED_FORM
zHAH_INITIAL_FORM zfSOLATED_FORM zeWITH_HAH_FINAL_FORM znINITIAL_FORM zjYEH_FINAL_FORM
zKHAH_INITIAL_FORM zMEEM_INITIAL_FORM zgSOLATED_FORM zfWITH_MEEM_FINAL_FORM zpINITIAL_FORM
zREH_FINAL_FORM zeISOLATED_FORM zYEH_FINAL_FORM zeISOLATED_FORM sLAAMUHU_ALAYNAA uM_ISOLATED_FORM
tLA_ISOLATED_FORM wUSED_AS_KORANIC_STOP_SIGN_ISOLATED_FORM vLLAAHU_ALAYHI_WA-AALIH
yHOU_ALAYHE_WASALLAM zU_ALAYHI_WAAALIHEE_WA-SALLAM rEEN_WITH_ALEF_MAKSURA_FINAL_FORM zoISOLATED_FORM
zbHAH_INITIAL_FORM zgSOLATED_FORM zfMEDIAL_FORM zfWITH_JEEM_INITIAL_FORM zcEH_INITIAL_FORM
zfMEDIAL_FORM zbJEEM_INITIAL_FORM zhSOLATED_FORM zgMEDIAL_FORM zgWITH_ALEF_MAKSURA_FINAL_FORM
zlHAH_INITIAL_FORM zbKHAH_INITIAL_FORM zhSOLATED_FORM zgMEDIAL_FORM zgWITH_ALEF_MAKSURA_FINAL_FORM
zlYEH_FINAL_FORM zbMEEM_INITIAL_FORM zhSOLATED_FORM zgMEDIAL_FORM zgWITH_HAH_FINAL_FORM
zpINITIAL_FORM zlJEEM_INITIAL_FORM zlMEEM_FINAL_FORM zqINITIAL_FORM zbREH_FINAL_FORM zfISOLATED_FORM
zbYEH_FINAL_FORM zfISOLATED_FORM rHADDA_WITH_DAMMA_ISOLATED_FORM zjMEDIAL_FORM ziTAN_ISOLATED_FORM
zdFATHA_ISOLATED_FORM zjMEDIAL_FORM zdKASRA_ISOLATED_FORM zjMEDIAL_FORM ziTAN_ISOLATED_FORM
zdSUPERSCRIPT_ALEF_ISOLATED_FORM sEEN_WITH_ALEF_MAKSURA_FINAL_FORM zpISOLATED_FORM zcHAH_FINAL_FORM
zgINITIAL_FORM zhSOLATED_FORM zgMEDIAL_FORM zgWITH_MEEM_FINAL_FORM zqINITIAL_FORM zlYEH_FINAL_FORM
zdEH_INITIAL_FORM zgMEDIAL_FORM zcJEEM_FINAL_FORM zhINITIAL_FORM ziSOLATED_FORM zhMEDIAL_FORM
zhWITH_YEH_FINAL_FORM zcKHAH_FINAL_FORM zhINITIAL_FORM ziSOLATED_FORM zhMEDIAL_FORM
zcMEEM_FINAL_FORM zhINITIAL_FORM ziSOLATED_FORM zhMEDIAL_FORM zhWITH_KHAH_FINAL_FORM zrINITIAL_FORM
zmMEEM_FINAL_FORM zrINITIAL_FORM zcREH_FINAL_FORM zgISOLATED_FORM zcYEH_FINAL_FORM zgISOLATED_FORM
rUBHAANAHU_WA_TAAALAA qTABAARAKA_WA-TAAALAA sH_WITH_ALEF_MAKSURA_FINAL_FORM znISOLATED_FORM
zHAH_INITIAL_FORM zfSOLATED_FORM zMEEM_INITIAL_FORM zgSOLATED_FORM zfMEDIAL_FORM
zfWITH_HAH_FINAL_FORM zoINITIAL_FORM zkMEEM_INITIAL_FORM zkYEH_FINAL_FORM zYEH_FINAL_FORM
zeISOLATED_FORM rEH_WITH_ALEF_MAKSURA_FINAL_FORM znISOLATED_FORM zHAH_INITIAL_FORM zfSOLATED_FORM
zeWITH_JEEM_FINAL_FORM zoINITIAL_FORM zjMEEM_INITIAL_FORM zbEH_INITIAL_FORM zeMEDIAL_FORM
zJEEM_INITIAL_FORM zgSOLATED_FORM zfWITH_ALEF_MAKSURA_FINAL_FORM zkMEEM_INITIAL_FORM
zkYEH_FINAL_FORM zKHAH_INITIAL_FORM zgSOLATED_FORM zfWITH_ALEF_MAKSURA_FINAL_FORM
zkMEEM_INITIAL_FORM zkYEH_FINAL_FORM zMEEM_FINAL_FORM zfINITIAL_FORM zgSOLATED_FORM zfMEDIAL_FORM
zfWITH_ALEF_MAKSURA_FINAL_FORM zkHAH_INITIAL_FORM zkJEEM_INITIAL_FORM zkKHAH_INITIAL_FORM
zkYEH_FINAL_FORM zNOON_FINAL_FORM zREH_FINAL_FORM zYEH_FINAL_FORM zeISOLATED_FORM zZAIN_FINAL_FORM
rHAL_WITH_SUPERSCRIPT_ALEF_ISOLATED_FORM sEH_WITH_ALEF_MAKSURA_FINAL_FORM zoISOLATED_FORM
zbHEH_MEDIAL_FORM zbJEEM_ISOLATED_FORM zbMEEM_FINAL_FORM zgINITIAL_FORM zhSOLATED_FORM zgMEDIAL_FORM
zbNOON_FINAL_FORM zbREH_FINAL_FORM zbYEH_FINAL_FORM zfISOLATED_FORM zbZAIN_FINAL_FORM
qUIGHUR_KIRGHIZ_YEH_WITH_HAMZA_ABOVE_WITH_ALEF_MAKSURA_FINAL_FORM zzuINITIAL_FORM zzvSOLATED_FORM
qWASALLAM_ISOLATED_FORM qYEH_WITH_ALEF_MAKSURA_FINAL_FORM znISOLATED_FORM zHAH_INITIAL_FORM
zfSOLATED_FORM zeWITH_YEH_FINAL_FORM zcMZA_ABOVE_WITH_AE_FINAL_FORM zuISOLATED_FORM zsLEF_FINAL_FORM
zwISOLATED_FORM zwMAKSURA_FINAL_FORM zzfISOLATED_FORM zrE_FINAL_FORM ztINITIAL_FORM zuSOLATED_FORM
zrHAH_INITIAL_FORM zwSOLATED_FORM zsEH_INITIAL_FORM zvMEDIAL_FORM zrJEEM_INITIAL_FORM zxSOLATED_FORM
zrKHAH_INITIAL_FORM zrMEEM_FINAL_FORM zwINITIAL_FORM zxSOLATED_FORM zwMEDIAL_FORM zrNOON_FINAL_FORM
zrOE_FINAL_FORM zuISOLATED_FORM zrREH_FINAL_FORM zrU_FINAL_FORM ztISOLATED_FORM zrWAW_FINAL_FORM
zvISOLATED_FORM zrYEH_FINAL_FORM zvISOLATED_FORM zsU_FINAL_FORM zuISOLATED_FORM zrZAIN_FINAL_FORM
zbEH_INITIAL_FORM zeMEDIAL_FORM zJEEM_INITIAL_FORM zgSOLATED_FORM zfWITH_YEH_FINAL_FORM
zKHAH_INITIAL_FORM zgSOLATED_FORM zMEEM_FINAL_FORM zfINITIAL_FORM zgSOLATED_FORM zfMEDIAL_FORM
zfWITH_MEEM_FINAL_FORM zpINITIAL_FORM zkYEH_FINAL_FORM zNOON_FINAL_FORM zREH_FINAL_FORM
zYEH_FINAL_FORM zeISOLATED_FORM zZAIN_FINAL_FORM qZAH_WITH_MEEM_INITIAL_FORM zgSOLATED_FORM
zfMEDIAL_FORM hMADDA_WAAJIB mH_ABOVE jRK_NOON_GHUNNA mSIDEWAYS_NOON_GHUNNA jTHEMATICAL_AIN vLEF uBEH
uDAD wL vOTLESS_BEH zdFEH zdNOON zdQAF wUBLE-STRUCK_AIN zjBEH zjDAD zlL zjFEH zjGHAIN zjHAH zjJEEM
zjKHAH zjLAM zjMEEM zjNOON zjQAF zjREH zjSAD zkEEN zkHEEN zjTAH zkEH zkHAL zlEH zjWAW zjYEH zjZAH
zlIN uFEH uGHAIN uHAH uINITIAL_AIN zdBEH zdDAD zdFEH zdGHAIN zdHAH zeEH zdJEEM zdKAF zeHAH zdLAM
zdMEEM zdNOON zdQAF zdSAD zeEEN zeHEEN zdTEH zeHEH zdYEH uJEEM uKAF vHAH uLAM vOOPED_AIN zdLEF zcBEH
zcDAD zeL zcFEH zcGHAIN zcHAH zdEH zcJEEM zcKHAH zcLAM zcMEEM zcNOON zcQAF zcREH zcSAD zdEEN zdHEEN
zcTAH zdEH zdHAL zeEH zcWAW zcYEH zcZAH zeIN uMEEM uNOON uOPERATOR_HAH_WITH_DAL
zeMEEM_WITH_HAH_WITH_TATWEEL uQAF uREH uSAD vEEN vHEEN vTRETCHED_AIN zfBEH zfDAD zgOTLESS_BEH znFEH
zfFEH zfGHAIN zfHAH zgEH zfJEEM zfKAF zgHAH zfMEEM zfNOON zfQAF zfSAD zgEEN zgHEEN zfTAH zgEH zgHEH
zfYEH zfZAH uTAH wILED_AIN zcDAD zdOTLESS_NOON zkQAF zcGHAIN zcHAH zcJEEM zcKHAH zcLAM zcNOON zcQAF
zcSAD zdEEN zdHEEN zcYEH vEH vHAL wEH uWAW uYEH uZAH wIN hNUMBER_MARK_ABOVE oSIGN hOPEN_DAMMATAN
mFATHATAN mKASRATAN hPERCENT_SIGN iIASTRE_MARK_ABOVE iLACE_OF_SAJDAH iOETIC_VERSE_SIGN
jUND_MARK_ABOVE hQUESTION_MARK hRAISED_ROUND_DOT jY iEVERSED_DAMMA iIGHT_ARROWHEAD_ABOVE zd_WITH_DOT
xBELOW iOUNDED_HIGH_STOP_WITH_FILLED_CENTRE hSEMICOLON iHADDA n_ISOLATED_FORM oMEDIAL_FORM
iIGN_ALAYHE_ASSALLAM mMISRA mRADI_ALLAHOU_ANHU oHMATULLAH_ALAYHE mSAFHA oLLALLAHOU_ALAYHE_WASSALLAM
oMVAT oNAH nINDHI_AMPERSAND tPOSTPOSITION_MEN mTAKHALLUS iMALL_DAMMA nFARSI_YEH pTHA nHIGH_AIN
sDOTLESS_HEAD_OF_KHAH sFARSI_YEH tOOTNOTE_MARKER sJEEM sLAM_ALEF tIGATURE_ALEF_WITH_LAM_WITH_YEH
zcQAF_WITH_LAM_WITH_ALEF_MAKSURA zcSAD_WITH_LAM_WITH_ALEF_MAKSURA sMADDA tEEM_INITIAL_FORM
ySOLATED_FORM sNOON w_WITH_KASRA sQAF sROUNDED_ZERO sSAD tEEN tIGN_SAFHA sTAH tHREE_DOTS
sUPRIGHT_RECTANGULAR_ZERO sWAW tORD_AL-JUZ yN-NISF yR-RUB yS-SAJDA yTH-THALATHA xQIF xSAH zKTA
xWAQFA sYEH v_BARREE_WITH_TWO_DOTS_BELOW sZAH uIN nKASRA nLOW_MEEM rNOON_WITH_KASRA rSEEN rWAW
sORD_IMAALA xSHMAAM wTASHEEL nWAW nYEH iTART_OF_RUB_EL_HIZB iUBSCRIPT_ALEF jKUN m_BELOW
nISOLATED_FORM nMEDIAL_FORM jPERSCRIPT_ALEF_MOKHASSAS iYMBOL_DOT_ABOVE sBELOW
qUBLE_VERTICAL_BAR_BELOW oFOUR_DOTS_ABOVE yBELOW oRING oSMALL_TAH_ABOVE yBELOW oTHREE_DOTS_ABOVE
zBELOW zPOINTING_DOWNWARDS_ABOVE ztBELOW pWO_DOTS_ABOVE xBELOW xVERTICALLY_ABOVE zjBELOW
oWASLA_ABOVE hTAIL_FRAGMENT jTWEEL o_WITH_FATHATAN_ABOVE uOVERSTRUCK_HAMZA zgWAW uTWO_DOTS_BELOW
iHOUSANDS_SEPARATOR iONE_LOOP_ABOVE rBELOW mONE_DOT_ABOVE uBELOW mTWO_DOTS_ABOVE vBELOW
iRIPLE_DOT_PUNCTUATION_MARK iURNED_DAMMA_BELOW hVERTICAL_TAIL iOWEL_SIGN_DOT_BELOW
sINVERTED_SMALL_V_ABOVE sSMALL_V_ABOVE hWAVY_HAMZA_BELOW hZWARAKAY g-INDIC_CUBE_ROOT nDIGIT_EIGHT
tFIVE uOUR tNINE tONE tSEVEN uIX tTHREE uWO tZERO nFOURTH_ROOT nPER_MILLE_SIGN rTEN_THOUSAND_SIGN cC
cIES cMENIAN_ABBREVIATION_MARK kPOSTROPHE jCAPITAL_LETTER_AYB yBEN yCA zHA zbEH zO yDA yECH zH zT
yFEH yGHAD zIM yHO yINI yJA zHEH yKEH zbN yLIWN yMEN yNOW yOH yPEH zIWR yRA zEH ySEH zHA yTIWN zO
yVEW zO yXEH yYI zbWN yZA zHE kOMMA jDRAM_SIGN jEMPHASIS_MARK kXCLAMATION_MARK jFULL_STOP jHYPHEN
jMODIFIER_LETTER_LEFT_HALF_RING jQUESTION_MARK jSMALL_LETTER_AYB wBEN wCA xHA yEH xO wDA wECH xH xT
wFEH wGHAD xIM wHO wINI wJA xHEH wKEH yN wLIWN wMEN wNOW wOH wPEH xIWR wRA xEH wSEH xHA wTIWN xO
xURNED_AYB wVEW xO wXEH wYI y_WITH_STROKE yWN wZA xHE qIGATURE_ECH_YIWN yMEN_ECH zdINI zdNOW zdXEH
yVEW_NOW cROW_POINTING_DOWNWARDS_THEN_CURVING_LEFTWARDS znRIGHTWARDS
pRIGHTWARDS_THEN_CURVING_DOWNWARDS zoSOUTH_WEST zoUPWARDS pUPWARDS_THEN_NORTH_WEST
fHEAD-SHAPED_POINTER cTICULATED_LORRY eST_PALETTE bSCENDING_NODE dIA_SYMBOL cSERTION cTERISK
i_OPERATOR hM dONISHED_FACE dRAEA eONOMICAL_SYMBOL_FOR_URANUS cYMPTOTICALLY_EQUAL_TO bTHLETIC_SHOE
cOM_SYMBOL bUBERGINE cSTRAL_SIGN cTO_RICKSHAW eMATED_TELLER_MACHINE fOBILE bVESTAN_ABBREVIATION_MARK
iLETTER_A qA rN rO qE rE qN qO pBE qHE pCE pDE qHE pE qE pFE pGE qGE qHE pHE qME pI qI pJE pKE pLE
pME pNE qGE rVE rYE qNE qYE pO qO pPE pRE pSE qHE rYE qSHE pTE qHE qTE pU qU pVE pXE qVE qYE pYE qYE
pZE qHE cOCADO bXE"

def namesWithB : String := "
aBABY e_ANGEL fBOTTLE fCHICK fSYMBOL cCK_OF_ENVELOPE fWITH_LEFTWARDS_ARROW_ABOVE
e-TILTED_SHADOWED_WHITE_RIGHTWARDS_ARROW eSLANTED_SOUTH_ARROW_WITH_HOOKED_TAIL zgRIZONTAL_TAIL fPACE
dON dTRIAN_CAMEL cDGER dMINTON_RACQUET_AND_SHUTTLECOCK cGEL dGAGE_CLAIM dUETTE_BREAD
cLINESE_ADEG_ADEG jCARIK_PAMUNGKAH rREREN pSIKI jDIGIT_EIGHT pFIVE qOUR pNINE pONE pSEVEN qIX pTHREE
qWO pZERO jLETTER_AIKARA rKARA v_TEDUNG rRCHAIC_JNYA rSYURA_SASAK qBA s_KEMBANG qCA s_LACA qDA
s_MADU uURDA_ALPAPRANA zMAHAPRANA qEF_SASAK rKARA qGA s_GORA qHA qIKARA v_TEDUNG qJA s_JERA qKA
s_MAHAPRANA sF_SASAK rHOT_SASAK qLA s_LENGA y_TEDUNG qMA qNA s_RAMBAT rGA rYA qOKARA v_TEDUNG qPA
s_KAPAL qRA s_REPA x_TEDUNG qSA s_SAGA vPA qTA s_LATIK tMURDA_MAHAPRANA tTAWA rZIR_SASAK qUKARA
v_TEDUNG qVE_SASAK qWA qYA qZAL_SASAK jMUSICAL_SYMBOL_COMBINING_BENDE zjENDEP zjGONG zjJEGOGAN
zjKEMPLI zp_WITH_JEGOGAN znUL zp_WITH_JEGOGAN zjTEGEH yDAENG zbING zbNG zd_GEDE zeSURANG zENG zbUNG
zING zONG zUNG yLEFT-HAND_CLOSED_PLAK zsUK zjOPEN_PANG zpING zpUNG yRIGHT-HAND_CLOSED_TAK zsUK
zkOPEN_DAG zqUG jPAMADA p_LANTANG mENENG lNTI o_LANTANG jSIGN_BISAH oCECEK oREREKAN oSURANG
oULU_CANDRA sRICEM jVOWEL_SIGN_LA_LENGA zd_TEDUNG uPEPET z_TEDUNG uRA_REPA zc_TEDUNG uSUKU y_ILUT
uTALING zb_REPA zg_TEDUNG zcTEDUNG vEDUNG uULU x_SARI jWINDU dL_OF_YARN eET_SHOES eOON
h-SPOKED_ASTERISK fT_BOLD_SCRIPT_X jX k_WITH_BALLOT rOLD_CHECK vSCRIPT_X qCHECK qLIGHT_X qSCRIPT_X
qX hSCRIPT_X hX cMUM_COLON iMBINING_MARK_KOQNDON vTUKWENTIS jMA gFULL_STOP gLETTER_A nEE nFAAMAE oEE
oOM oU nI nKA oEN pT pUX oI oO pGHOM pVUU oPA oU oYEE nLA oEEEE oI oOQ oU nM oA oBAA pEN oEEEE pN oI
oO oU nNA oDAA oGA pGA pKWAEN oI oJAEM pEE pUAE oSHA oTEE pUU oU pAE oYI nO nPA oEE pUX oHASE-A_FIRI
vGBIEE_FON wHEUAEGHEUAE zcRAE vKAFA xQ wET xUKEUTNDA wPOQ wUOQ vLAPAQ wET_KUT wOMMAE wU xAEP
vMAEKEUP yM zBGBIEE zKPEN zVEUX yNYI ySI xNSUAE xP_PIEET wBANYI yQ wEUNJOMNDEUQ wGBASA wON_NGGEUAET
xOMEUT zPUQ wVEUAENGAM vNAA_MFON xQ wDA_LEERAEWA yANGGEUAET wEN wGANGU xGEN xKUE_MFON zbNZEUM wIKA
wJAM wKAARAE xINDI wSHA yIEE wTAP z_MFAA zbNTAA xOQPEN wYET xI yT_MONGKEUAEQ wZA_MFON xUN_MEUT
vPA_LEERAEWA xAM yRAE xMSHAE xSHAE wET wON_MFON_PIPAEMBA zlGBIEE zPA_NJI_PIPAEMBA znGBIEE wUP vROM
vSEUNYAM wHINDA_PA_NJI yRAE xOQ_NSHUT_YUM xUENSHUET yM wISA wONJAM xQ xT wUU vTEUAEN yTEUWEN
wITA_MFON wU_MAEMBA xAEP vU_YUQ_NAE wNKNOWN vVEE tB_FEE xUX vGHEUGHEN zdUAEM vKAM wEUAEM yPUQ yYEUX
wIEEM xQ vLAANAE xM_NSHUT_NYAM wET wOM_NTEUM vMA x_NJEUAENA zbUQA wBA_MAELEE yARAE xEURI xIT_MBAAKET
xUOQ wEUQ yT_NGGEET wFIYAQ xON_TEUAEQ wONTIEEN vNDU_NJAA wGGAAM yEU_MBU yUOQ zc_LARGE xKINDI_MVOP
xOM wSEN xHUET wTIEE_SHEUOQ wYAEMAE xI_NTEUM vPARUM wEESHI wIT wUNGAAM vSAKEUAE wET_TU wHET_NJAQ
yUAEQTU wIEE wUE vTAAM wU_MAEMGBIEE yNSIEE vVEUM vWUAET vYAFU_LEERAEWA wEURAE tC_BUNG vFUE vGBAYI
wHAP yRAE vKAA wEN_FATIGUE zLAW xT xUKAQ yM ySEUX zHEUAEP wPARAQ wUOP_NKAARAE xT vLAM xP wIQ wU
vMA_KEUAERI yNSIEE xEMBA ySI wBAA_CABBAGE-TREE zbPICKET yNYI xEEKEET yRAE yUM zX xI yRIEEN yT xUAEM
yE wGBASAQ wIEE wUAE vNANSANAQ xQ wDAM yP xEUAEREE zT xIDA xOMBU wGAQ xGEN yU zAEN_NYAM zEET zM zON
xKAQ yUE_MAEMBA xOM wJAEM yM xEEEE yUX xUEQ wSA xEUAEN xHAQ xOM xUN yOT_NGOM wTAA xEN yUNGBA xU_MBIT
wYIR_MKPARAQ_MEUN wZA xEUM vPEN wIN xRIEEN vRU vSETFON xUX wHIQ xUEQ wUAET vTAASHAE wET xUTEUX
wITA_YUE yUAEP vVEUAEPEN yX vWANGKUOQ wUP vYAA wEUQ wU_MUOMAE xM xWOQ tD_FAA wEUFEUAET vGHAA xEUAE
vKET xUAETMEUN yM yOT_MBUAE yP wU xN xOM xQ wWAET wYEE vLEEEE xT xUAEP yM wIEE wOQ wUM vM wAENJET
xLEERI wBAA z_SEVEN xUO wEEEE xUN yT wFEUAE zT xIEE xO yN wGBEUN yIEE yOFUM wONI wU wVOP vNDAM xEE
yUX xON wGGAAM zcAE zP yEUX yUOM yWAEN xKAP yEUAEQ zbRI yIEE yUN yYEE wI wJAP xEUAEM zT xI yEE xUEQ
wSHEE yUT xIEEP zbT xUM wTEE yUM xUU wU wYAM xET xI xUE vPAP wEE xUTAE wIP wUQ xUT vRAEM wEN_MUCH
zOLD wII vSAP xQ wEUAEQ wHEE yUAE zX xII xOQ xU wOT wUAE xE xU vTAE wEEEE xUAEN yN yT wI wOQ wU xOT
vWAP wUAEN vYAEMMAE wEN wUOM yP xWOQ tE_A vFA xQ wEE wOM wU_CALL yI yREMEDY xE yT vGBET yUX wHAAMAE
xET yUAE zN zX xOM vI vKET xUAE yX wI wO wPEUX wUET xOP xT vLAAM xP xQ wEUAEM wOM xON yT xQ wU vMA
xE yM xP xQ wBEE yUM wEN wFEUQ wGBA yEN wI xEE wON wUAE wVI vNA xE wDAA_MY_HOUSE zbSOFTNESS yP xIAQ
yQ xUN wGA xEUREUT xGEEEE zUAE zdT yUAESHAE_NYAM zP zRAE xKA zAMI yEUAEM zbX yUM zP xOP yQ xUAE zbT
wJAEMLI xEE z_EPOCH yUX wKOM wSHIEE yUE zOP wTAP xUM wYI_BETWEEN zCLEAVER wZAQ xUQ vO vPA_PEOPLE
zLURAL xA yM wEEM xUT yX wI xEEQ yT wO xON wU xAE yQ xE xM vRAE xQ wEUX wIMGBA vSAA wEE xT wHEUAEQ
xIQ xO yQ wOM wUAEN vTAA yQ xEN_NTEUM xM xQ wEN xU yAEQ wOO yN xQ wUAE xM yAE vVEE xUAE wOM vWEUX
wUE xO vYAP wEUAE zbT yM yX wIEE xT wOQ_COVER zSWIMMING wUAEN xEQ xN xQ tF_EE vFOM vKA wEN xT wO wPA
wU wYEE vLA wI wOQ vM wA wBAA xEN wEEEE wO vNDAA wGGA xKWAEN wI wJAEM xUAE wSHA wTEE wU xAE wYI vPEE
xUX wUAE vREE xN xUX wIEE xI wU vSAMBA wEUX wHII xO xU wI wUU vTAA xE wET vU vVUEQ vWA wUE vYA wOQ
oI oUAE pE nRAE oEE pN pUX oIEE pI oU nSAMBA oEUX oHEUX pII pO pU oI oUU nTAA pE oEN pT oI nU nWA
oUE nYA oOQ oUQ gNJAEMLI gQUESTION_MARK gSEMICOLON cNANA dJO dK eNOTE_WITH_DOLLAR_SIGN oEURO_SIGN
oPOUND_SIGN oYEN_SIGN cR_CHART eOF_SOAP dBER_POLE cSEBALL dKET gBALL_AND_HOOP
dSA_VAH_COMBINING_HIGH_TONE y-LOW_TONE uLOW_TONE x-MID_TONE uMID_TONE kFULL_STOP kLETTER_A rBA rCE
rDHII sO rE sE sNNI rFA rGAH sBU rHWAH rI rJO rKA sPAH rMBE rO sO rPA rSE rTO rU sWU rVU rWA tDDA
rYEIN sIE rZO cT dAK_CONSONANT_SIGN_H vNG gLETTER_A nBA nCA nDA nGA nHA nI nJA nKARO_BA nLA nMA
pNDAILING_HA yNA ySA oBA nNA oDA oGA oORTHERN_TA oYA nPA pKPAK_WA nRA nSA oIMALUNGUN_A yGA yHA yLA
yMA yPA yRA ySA yWA yYA oOUTHERN_TA nU nWA nYA gPANGOLAT jONGONAN gSIGN_TOMPI hYMBOL_BINDU_JUDUL
tNA_METEK tPANGOLAT uINARBORAS gVOWEL_SIGN_E sE rI rKARO_I wO rO rPAKPAK_E rU s_FOR_SIMALUNGUN_SA dH
eTUB dTERY bEACH_WITH_UMBRELLA dMED_ASCENDING_MUSICAL_NOTES hDESCENDING_MUSICAL_NOTES hEIGHTH_NOTES
hSIXTEENTH_NOTES dNS dR_FACE eDED_PERSON dTING_HEART dVER cCAUSE cD cER_MUG dTLE cL dL e_PEPPER
fSYMBOL fWITH_CANCELLATION_STROKE eHOP_BELL cNGALI_ABBREVIATION_SIGN jNJI jU_LENGTH_MARK
iCURRENCY_DENOMINATOR_SIXTEEN rNUMERATOR_FOUR zcONE zf_LESS_THAN_THE_DENOMINATOR zcTHREE zdWO
iDIGIT_EIGHT oFIVE pOUR oNINE oONE oSEVEN pIX oTHREE pWO oZERO iGANDA_MARK iISSHAR iLETTER_A qA qI
qU pBA qHA pCA qHA pDA qDA rHA qHA pE pGA qHA pHA pI qI pJA qHA pKA qHA sNDA_TA pLA pMA pNA qGA qNA
qYA pO pPA qHA pRA r_WITH_LOWER_DIAGONAL xMIDDLE_DIAGONAL qHA qRA pSA qHA qSA pTA qHA qTA rHA pU qU
pVEDIC_ANUSVARA qOCALIC_L yL xR yR pYA qYA iRUPEE_MARK oSIGN iSANDHI_MARK jIGN_ANUSVARA oVAGRAHA
nCANDRABINDU nNUKTA nVIRAMA pSARGA iVOWEL_SIGN_AA uI uU tE tI uI tO tU uU tVOCALIC_L zdL zcR zdR
dT_ARROW_POINTING_DOWNWARDS_THEN_NORTH_EAST eO_BOX dZENE_RING m_WITH_CIRCLE cT_SYMBOL dWEEN
cVERAGE_BOX bHAIKSUKI_DANDA lIGIT_EIGHT qFIVE rOUR qNINE qONE qSEVEN rIX qTHREE rWO qZERO
lOUBLE_DANDA kGAP_FILLER-1 v2 kHUNDREDS_UNIT_MARK kLETTER_A sA sI sU rBA sHA rCA sHA rDA sDA tHA sHA
rE rGA sHA rHA rI sI rJA sHA rKA sHA rLA rMA rNA sGA sNA sYA rO rPA sHA rRA rSA sHA sSA rTA sHA sTA
tHA rU sU rVA sOCALIC_L zR zbR rYA kNUMBER_EIGHT wY rFIFTY tVE sORTY tUR rNINE vTY rONE rSEVEN wTY
sIX uTY rTEN sHIRTY tREE sWENTY tO kSIGN_ANUSVARA qVAGRAHA pCANDRABINDU pVIRAMA rSARGA
kVOWEL_SIGN_AA wI wU vE vI wI vO vU wU vVOCALIC_L zeR zfR kWORD_SEPARATOR bICYCLE gIST
cG_REVERSE_SOLIDUS eSOLIDUS cKINI cLLED_CAP eIARDS cOHAZARD_SIGN cRD dTHDAY_CAKE cSON cTCOIN_SIGN
dING_LIP bLACK_BOWTIE gCENTRE_WHITE_STAR hHESS_BISHOP s_ROTATED_NINETY_DEGREES
zcTWO_HUNDRED_SEVENTY_DEGREES mEQUIHOPPER w_ROTATED_NINETY_DEGREES mKING q_ROTATED_NINETY_DEGREES
zTWO_HUNDRED_SEVENTY_DEGREES nNIGHT s_ROTATED_FORTY-FIVE_DEGREES zcNINETY_DEGREES
zcONE_HUNDRED_THIRTY-FIVE_DEGREES zcTHREE_HUNDRED_FIFTEEN_DEGREES zdWO_HUNDRED_SEVENTY_DEGREES
zoTWENTY-FIVE_DEGREES s-BISHOP tQUEEN tROOK mPAWN q_ROTATED_NINETY_DEGREES
zTWO_HUNDRED_SEVENTY_DEGREES mQUEEN r_ROTATED_NINETY_DEGREES zbTWO_HUNDRED_SEVENTY_DEGREES mROOK
q_ROTATED_NINETY_DEGREES zTWO_HUNDRED_SEVENTY_DEGREES mTURNED_BISHOP tKING uNIGHT tPAWN tQUEEN tROOK
hIRCLE m_FOR_RECORD nWITH_DOWN_ARROW sTWO_WHITE_DOTS sWHITE_DOT_RIGHT hLUB_SUIT hROSS_ON_SHIELD
hURVED_DOWNWARDS_AND_LEFTWARDS_ARROW zcRIGHTWARDS_ARROW nLEFTWARDS_AND_DOWNWARDS_ARROW
zcUPWARDS_ARROW nRIGHTWARDS_AND_DOWNWARDS_ARROW zdUPWARDS_ARROW nUPWARDS_AND_LEFTWARDS_ARROW
zRIGHTWARDS_ARROW gDIAMOND n_CENTRED oMINUS_WHITE_X oON_CROSS oSUIT oWITH_DOWN_ARROW
hOWN_POINTING_BACKHAND_INDEX k-POINTING_DOUBLE_TRIANGLE uISOSCELES_RIGHT_TRIANGLE uSMALL_TRIANGLE
uTRIANGLE kWARDS_EQUILATERAL_ARROWHEAD hRAUGHTS_KING pMAN iOPLET gFLAG iORETTE hOLDER
iUR_POINTED_STAR gHARD_SHELL_FLOPPY_DISK hEART l_SUIT iXAGON hORIZONTAL_ELLIPSE iURGLASS
gLARGE_CIRCLE mSQUARE hEFT_LANE_MERGE lPOINTING_BACKHAND_INDEX uINDEX k-POINTING_DOUBLE_TRIANGLE
zk_WITH_VERTICAL_BAR uISOSCELES_RIGHT_TRIANGLE uPOINTER uSMALL_TRIANGLE uTRIANGLE kWARDS_BULLET
qEQUILATERAL_ARROWHEAD hOWER_LEFT_TRIANGLE mRIGHT_TRIANGLE iZENGE gMEDIUM_DIAMOND
oOWN-POINTING_TRIANGLE zk_CENTRED nLEFT-POINTING_TRIANGLE zk_CENTRED oOZENGE
nRIGHT-POINTING_TRIANGLE zl_CENTRED nSMALL_DIAMOND tLOZENGE tSQUARE oQUARE nUP-POINTING_TRIANGLE
zi_CENTRED hOON_LILITH gNIB gOCTAGON gPARALLELOGRAM hENNANT jTAGON hUSHPIN gQUESTION_MARK_ORNAMENT
gRECTANGLE hIGHT_POINTING_BACKHAND_INDEX vINDEX l-POINTING_DOUBLE_TRIANGLE zl_WITH_VERTICAL_BAR
vISOSCELES_RIGHT_TRIANGLE vPENTAGON wOINTER vSMALL_TRIANGLE vTRIANGLE ze_WITH_DOUBLE_VERTICAL_BAR
lWARDS_ARROW wHEAD rBULLET rEQUILATERAL_ARROWHEAD hOSETTE gSAFETY_SCISSORS hCISSORS hHOGI_PIECE
hKULL_AND_CROSSBONES hLIGHTLY_SMALL_CIRCLE vSQUARE hMALL_DIAMOND mLOZENGE mSQUARE nTAR iILING_FACE
hNOWMAN hPADE_SUIT hQUARE m_BUTTON nCENTRED nFOR_STOP hTAR hUN_WITH_RAYS gTELEPHONE hINY_DIAMOND
lLOZENGE lSQUARE hOUCHTONE_TELEPHONE hRUCK hWO-WAY_LEFT_WAY_TRAFFIC gUNIVERSAL_RECYCLING_SYMBOL
hP_POINTING_BACKHAND_INDEX i-POINTING_DOUBLE_TRIANGLE sISOSCELES_RIGHT_TRIANGLE sSMALL_TRIANGLE
sTRIANGLE iPER_LEFT_TRIANGLE mRIGHT_TRIANGLE iWARDS_EQUILATERAL_ARROWHEAD gVERTICAL_ELLIPSE
pRECTANGLE jY_SMALL_DIAMOND rLOZENGE rSQUARE f-FEATHERED_NORTH_EAST_ARROW qRIGHTWARDS_ARROW
qSOUTH_EAST_ARROW gLETTER_CAPITAL_C vH vI vR vZ dNK_SYMBOL cOCK_SEXTANT-1 p2 q3 r4 s5 s6 r5 s6 r6 q4
r5 s6 r6 q5 r6 q6 p3 q4 r5 s6 r6 q56 q6 p4 q5 r6 q6 p5 q6 p6 o2 p3 q4 r5 s6 r6 q5 r6 q6 p4 q5 r6 p5
q6 p6 o3 p4 q5 r6 q6 p5 q6 p6 o4 p5 q6 p6 o5 p6 o6 dSSOM dWFISH cUE_BOOK fHEART eBERRIES bOAR
cLD_EIGHT_SPOKED_ASTERISK fFIVE_SPOKED_ASTERISK fGREEK_CROSS fSALTIRE gIX_SPOKED_ASTERISK
fWHITE_CIRCLE lSQUARE cM dB cNE cOK eMARK i_TABS eS dMERANG cPOMOFO_FINAL_LETTER_G wH wK wP wT
jLETTER_A rH rI sNN rM rN sG sN rU sNN qB rU qC rH qD qE rE rH rI rN sG sN rR qF qG rH rN rU rW qH
qI rH rM rNN tN rR rU qJ rI qK rW qL rH qM qN rG sG rN qO r_WITH_DOT_ABOVE rE rM rNG sN rO rU qP qQ
qR qS rH qT qU rNN qV qX qZ rH rI rY cTTLE_WITH_POPPING_CORK eOM_ARC_ANTICLOCKWISE_ARROW
hCURLY_BRACKET hHALF_BLACK_CIRCLE mINTEGRAL mLEFT_PARENTHESIS mRIGHT_PARENTHESIS hLEFT_CORNER nROP
mHALF_BRACKET hPARENTHESIS hRIGHT_CORNER oROP nHALF_BRACKET hSQUARE_BRACKET
v_OVER_TOP_SQUARE_BRACKET hTORTOISE_SHELL_BRACKET cUQUET h_OF_FLOWERS cW_AND_ARROW dL_OF_HYGIEIA
fWITH_SPOON eING dTIE g_WITH_LEFT_HALF_BLACK mRIGHT_HALF_BLACK
cX_DRAWINGS_DOUBLE_DOWN_AND_HORIZONTAL zeLEFT zeRIGHT uHORIZONTAL uUP_AND_HORIZONTAL zcLEFT zcRIGHT
uVERTICAL zd_AND_HORIZONTAL ziLEFT ziRIGHT pWN_DOUBLE_AND_HORIZONTAL_SINGLE zeLEFT_SINGLE
zeRIGHT_SINGLE sHEAVY_AND_HORIZONTAL_LIGHT zdLEFT_LIGHT ziUP_LIGHT zdRIGHT_LIGHT zjUP_LIGHT
zdUP_HORIZONTAL_LIGHT sLIGHT_AND_HORIZONTAL_HEAVY zdLEFT_HEAVY ziUP_HEAVY zdRIGHT_HEAVY zjUP_HEAVY
zdUP_HORIZONTAL_HEAVY sSINGLE_AND_HORIZONTAL_DOUBLE zeLEFT_DOUBLE zeRIGHT_DOUBLE
nHEAVY_DOUBLE_DASH_HORIZONTAL zgVERTICAL vWN x_AND_HORIZONTAL zdLEFT zdRIGHT tHORIZONTAL tLEFT
x_AND_LIGHT_RIGHT tQUADRUPLE_DASH_HORIZONTAL zjVERTICAL tRIGHT tTRIPLE_DASH_HORIZONTAL zgVERTICAL
tUP v_AND_HORIZONTAL zbLEFT zcIGHT_DOWN zbRIGHT tVERTICAL zc_AND_HORIZONTAL zhLEFT zhRIGHT
nLEFT_DOWN_HEAVY_AND_RIGHT_UP_LIGHT sHEAVY_AND_RIGHT_DOWN_LIGHT zjUP_LIGHT zjVERTICAL_LIGHT
sLIGHT_AND_RIGHT_DOWN_HEAVY zjUP_HEAVY zjVERTICAL_HEAVY sUP_HEAVY_AND_RIGHT_DOWN_LIGHT
oIGHT_ARC_DOWN_AND_LEFT zhRIGHT xUP_AND_LEFT zfRIGHT tDIAGONAL_CROSS zdDIAMOND
zdMIDDLE_LEFT_TO_LOWER_CENTRE zzf_TO_MIDDLE_RIGHT zsUPPER_CENTRE_TO_MIDDLE_RIGHT zzv_TO_LOWER_CENTRE
zkRIGHT_TO_LOWER_CENTRE ztUPPER_CENTRE_TO_MIDDLE_LEFT_TO_LOWER_CENTRE zdUPPER_CENTRE_TO_MIDDLE_LEFT
zzf_AND_MIDDLE_RIGHT_TO_LOWER_CENTRE zzgTO_LOWER_CENTRE zzv_TO_MIDDLE_RIGHT zzbRIGHT
zzg_AND_MIDDLE_LEFT_TO_LOWER_CENTRE zzhTO_LOWER_CENTRE zzw_TO_MIDDLE_LEFT zjLEFT_TO_LOWER_RIGHT
zjRIGHT_TO_LOWER_LEFT uOUBLE_DASH_HORIZONTAL zgVERTICAL vWN x_AND_HORIZONTAL zdLEFT zdRIGHT
tHORIZONTAL ze_WITH_VERTICAL_STROKE tLEFT x_AND_HEAVY_RIGHT tQUADRUPLE_DASH_HORIZONTAL zjVERTICAL
tRIGHT tTRIPLE_DASH_HORIZONTAL zgVERTICAL tUP v_AND_HEAVY_DOWN zcORIZONTAL zbLEFT zbRIGHT tVERTICAL
zc_AND_HORIZONTAL zhLEFT zhRIGHT nRIGHT_DOWN_HEAVY_AND_LEFT_UP_LIGHT tHEAVY_AND_LEFT_DOWN_LIGHT
zjUP_LIGHT zjVERTICAL_LIGHT tLIGHT_AND_LEFT_DOWN_HEAVY zjUP_HEAVY zjVERTICAL_HEAVY
tUP_HEAVY_AND_LEFT_DOWN_LIGHT nUP_DOUBLE_AND_HORIZONTAL_SINGLE zcLEFT_SINGLE zcRIGHT_SINGLE
qHEAVY_AND_DOWN_HORIZONTAL_LIGHT zbHORIZONTAL_LIGHT zbLEFT_DOWN_LIGHT zgLIGHT zbRIGHT_DOWN_LIGHT
zhLIGHT qLIGHT_AND_DOWN_HORIZONTAL_HEAVY zbHORIZONTAL_HEAVY zbLEFT_DOWN_HEAVY zgHEAVY
zbRIGHT_DOWN_HEAVY zhHEAVY qSINGLE_AND_HORIZONTAL_DOUBLE zcLEFT_DOUBLE zcRIGHT_DOUBLE
nVERTICAL_DOUBLE_AND_HORIZONTAL_SINGLE ziLEFT_SINGLE ziRIGHT_SINGLE wHEAVY_AND_HORIZONTAL_LIGHT
zhLEFT_LIGHT zhRIGHT_LIGHT wLIGHT_AND_HORIZONTAL_HEAVY zhLEFT_HEAVY zhRIGHT_HEAVY
wSINGLE_AND_HORIZONTAL_DOUBLE ziLEFT_DOUBLE ziRIGHT_DOUBLE dING_GLOVE cY dS_SYMBOL bPH bRAHMI_DANDA
iIGIT_EIGHT nFIVE oOUR nNINE nONE nSEVEN oIX nTHREE oWO nZERO iOUBLE_DANDA hLETTER_A pA pI pU oBA
pHA oCA pHA oDA pDA qHA pHA oE oGA pHA oHA oI pI oJA pHA oKA pHA oLA pLA oMA oNA pGA pNA pYA oO
pLD_TAMIL_LLA zbLA yNNNA yRRA ySHORT_E zfO oPA pHA oRA oSA pHA pSA oTA pHA pTA qHA oU pU oVA
pOCALIC_L xL wR xR oYA hNUMBER_EIGHT tY oFIFTY qVE pORTY qUR oJOINER oNINE sTY oONE r_HUNDRED
sTHOUSAND oSEVEN tTY pIX rTY oTEN pHIRTY qREE pWENTY qO hPUNCTUATION_CRESCENT_BAR tDOT vUBLE_DOT
tLINE uOTUS hSIGN_ANUSVARA mCANDRABINDU mJIHVAMULIYA mOLD_TAMIL_VIRAMA mUPADHMANIYA mVISARGA hVIRAMA
iOWEL_SIGN_AA tI tU sBHATTIPROLU_AA sE sI tI sO tLD_TAMIL_SHORT_E zjO sU tU sVOCALIC_L zcL zbR zcR
dILLE_PATTERN_BLANK qDOTS-1 w2 x3 y4 z5 zb6 zc7 zd8 zc8 zb7 zc8 zb8 z6 zb7 zc8 zb8 z7 zb8 z8 y5 z6
zb7 zc8 zb8 z7 zb8 z8 y6 z7 zb8 z8 y7 z8 y8 x4 y5 z6 zb7 zc8 zb8 z7 zb8 z8 y6 z7 zb8 z8 y7 z8 y8 x5
y6 z7 zb8 z8 y7 z8 y8 x6 y7 z8 y8 x7 y8 x8 w3 x4 y5 z6 zb7 zc8 zb8 z7 zb8 z8 y6 z7 zb8 z8 y7 z8 y8
x5 y6 z7 zb8 z8 y7 z8 y8 x6 y7 z8 y8 x7 y8 x8 w4 x5 y6 z7 zb8 z8 y7 z8 y8 x6 y7 z8 y8 x7 y8 x8 w5 x6
y7 z8 y8 x7 y8 x8 w6 x7 y8 x8 w7 x8 w8 v2 w3 x4 y5 z6 zb7 zc8 zb8 z7 zb8 z8 y6 z7 zb8 z8 y7 z8 y8 x5
y6 z7 zb8 z8 y7 z8 y8 x6 y7 z8 y8 x7 y8 x8 w4 x5 y6 z7 zb8 z8 y7 z8 y8 x6 y7 z8 y8 x7 y8 x8 w5 x6 y7
z8 y8 x7 y8 x8 w6 x7 y8 x8 w7 x8 w8 v3 w4 x5 y6 z7 zb8 z8 y7 z8 y8 x6 y7 z8 y8 x7 y8 x8 w5 x6 y7 z8
y8 x7 y8 x8 w6 x7 y8 x8 w7 x8 w8 v4 w5 x6 y7 z8 y8 x7 y8 x8 w6 x7 y8 x8 w7 x8 w8 v5 w6 x7 y8 x8 w7
x8 w8 v6 w7 x8 w8 v7 w8 v8 eN cEAD eK_PERMITTED_HERE eST-FEEDING dVE cICK dDE_WITH_VEIL eGE_AT_NIGHT
dEFCASE fS cOCCOLI dKEN_BAR hCIRCLE_WITH_NORTHWEST_ARROW hHEART dOM dWN_HEART bS bUBBLE_TEA gS cCKET
cG dINESE_END_OF_SECTION jLETTER_A qBA qCA qDA qGA qHA qJA qKA qLA qMA rPA qNA rGA sKA rRA rYA sCA
qPA qRA qSA qTA qVA qYA jPALLAWA jVOWEL_SIGN_AE uE uI uO uU cHID_LETTER_A nBA nDA nGA nHA nI nKA nLA
nMA nNA oGA nPA nRA nSA nTA nU nWA nYA gVOWEL_SIGN_I rU cILDING_CONSTRUCTION cLLET g_OPERATOR eHORN
i_WITH_SOUND_WAVES eSEYE cRRITO cS d_STOP dT_IN_SILHOUETTE eS_IN_SILHOUETTE cTTER gFLY
bYTE_ORDER_MARK cZANTINE_MUSICAL_SYMBOL_AGOGI_ARGI zjOTERI zgGORGI zkOTERI zgMESI ziTRIA zgPOLI_ARGI
zlGORGI zbNATRICHISMA zcTIKENOKYLISMA ziMA zbPESO_EKFONITIKON zhXO_NEO zcLI zcODERMA_ARCHAION zjNEO
zdSTROFOI_SYNDESMOS_NEO zlTELOUS_ICHIMATOS zjS zk_DIPLI zlNEO zdTHEMA zbRGON zeSYNTHETON zcKTIKO_DI
ziGA ziKE ziNI ziPA ziVOU ziZO zCHAMILI zgON zcOREVMA_ARCHAION zjNEO zcROA_KLITON zgSPATHI zgZYGOS
zDASEIA zbIARGON zdSTOLI_APLI_MEGALI zpIKRI zjDIPLI zjTHESEOS zcESIS_APLI_DYO_DODEKATA
zhDIGRAMMOS_EX_DODEKATA zhMONOGRAMMOS_TESSERA_DODEKATA zhTETARTIMORION ziRIGRAMMOS_OKTO_DODEKATA
zkTIMORION zcFTOGGOS_OU zcGORGON zi_PARESTIGMENON_ARISTERA_ANO zzhKATO zxDEXIA zdRAMMA_GG zcPLI
zf_ARCHAION zbYO zEKSTREPTON zbLAFRON zbNARXIS_KAI_FTHORA_VOU zcDOFONON zbPEGERMA
zbTERON_ARGOSYNTHETON zhPARAKALESMA zbXO_EKFONITIKON zFANEROSIS_DIFONIAS zkMONOFONIAS zkTETRAFONIAS
zbHTORA_SKLIRON_CHROMA_VASIS zbTHORA_ARCHAION zp_DEYTEROU_ICHOU zhDIATONIKI_DI zrKE zrNANA zsI_ANO
zuKATO zrPA zrZO zhENARMONIOS_ANTIFONIA zhI_YFESIS_TETARTIMORION zhMALAKON_CHROMA_DIFONIAS
zwMONOFONIAS zhNAOS_ICHOS ziENANO zhSKLIRON_CHROMA_SYNAFI zwVASIS zpDIATONON_DI zGENIKI_DIESIS
zhYFESIS zbORGON_ARCHAION zhNEO_ANO zlKATO zhPARESTIGMENON_ARISTERA zvDEXIA zfSYNTHETON
zdTHMIKON_N_APLOUN znDIPLOUN zbRONTHISMATA zICHADIN zbMIDIARGON zdFONON zeTHORA ziON
zbSAKIA_TELOUS_ICHIMATOS zcON_ARCHAION zfNEO zKATAVA_TROMIKON zgSMA zdHISTI zbENTIMA_ARCHAION
ziNEO_ANO zmKATO zmMESO zhTA zj_ARCHAION zkNEO_ANO zoKATO zoMESO zbLASMA zg_ANO zhKATO zbONTEVMA
zi_ALLO zcRONIS zcUFISMA zbRATIMA_ALLO zjRCHAION ziNEO zhTA zgOKOUFISMA zhYPORROON zcEMASTI zbYLISMA
zLEIMMA_DYO_CHRONON zhENOS_CHRONOU zhIMISEOS_CHRONOU zhTESSARON_CHRONON ziRION_CHRONON zcMOI
zbYGISMA zMARTYRIA_ALLI_DEYTEROS_ICHOS zoPROTOS_ICHOS zjDEYTEROS_ICHOS zjLEGETOS_ICHOS
zjPLAGIOS_ICHOS zrTETARTOS_ICHOS zkROTOS_ICHOS zoVARYS_ICHOS zjTETARTOS_ICHOS zsLEGETOS_ICHOS
zkRIFONIAS zmTOS_ICHOS zjVARYS_ICHOS zbIKRON_ISON zNANA zOLIGON_ARCHAION zhNEO zbMALON zbXEIA_DIPLI
zgEKFONITIKON zgNEO zfI_ARCHAION zbYRANISMA_ARCHAION zkNEO zPARAKALESMA_ARCHAION zmNEO zfLITIKI
zl_ARCHAION zmNEO zdICHON zbELASTON zi_NEO zcRISPOMENI zcTASMA zfTI zgOKOUFISMA zbIASMA_ARCHAION
zhNEO zbSIFISTOLYGISMA ziN zj_NEO ziPARAKALESMA ziSYNAGMA zdLI zeON zRAPISMA zbEVMA zSAXIMATA
zbEISMA zg_NEO zbIMANSIS_ARSEOS zp_DISIMOU zqTETRASIMOU zrRISIMOU zjTHESEOS zq_DISIMOU zrTETRASIMOU
zsRISIMOU zbTAVROS zh_APODEXIA zcIGMA zcRAGGISMATA zbYNAGMA_ARCHAION ziMETA_STAVROU ziNEO zdEVMA
zcRMA zfTIKI zTELEIA zcSSERA zcTRAPLI zbHEMA zf_APLOUN zfTISMOS_ESO znXO zdS_KAI_APOTHES zcITA
zbINAGMA zbRIA zdGORGON zdPLI zcOMIKOLYGISMA zhN_ALLO zkRCHAION zjNEO zhPARAKALESMA ziSIFISTON
zhSYNAGMA zVAREIA_DIPLI zhEKFONITIKON zhNEO zgI_ARCHAION zcTHY zXIRON_KLASMA zYFEN_ANO zfKATO
zdSIS_APLI_DYO_DODEKATA zhDIGRAMMOS_EX_DODEKATA zhMONOGRAMMOS_TESSERA_DODEKATA
zhTRIGRAMMOS_OKTO_DODEKATA zkTIMORION zbPOKRISIS zj_DIPLI zdRROI zcSILI"

def namesWithC : String := "
aCACTUS cDA_UNA dUCEUS cLENDAR dL_ME_HAND cMERA g_WITH_FLASH dPING cN dADIAN_SYLLABICS_A uA vI vY uI
vVILIK_B uN uTHAPASCAN_M zfS uY tBEAVER_DENE_L zgR uIBLE-CREE_Y uLACKFOOT_A zeE zeI zeKA zfE zfI zfO
zeNA zfE zfI zfO zeO zeS zeW zfA zfE zfI zfO tC uA vA wI vRRIER_CHA zeE zfE zeI zeO zeU zcDEE
zeNE_GEE zfTAL_S zdI zdLA zeE zfE zeI zeO zeU zdZA zeE zfE zeI zeO zeU zcEE zcGA zeA zdE zeE zdHA
zeE zfE zeI zeO zeU zdI zdO zdU zdWA zeU zcH zdEE zdI zdWA zeE zfE zeI zeO zeU zcI zdNITIAL_Z zcJA
zdE zeE zdI zdJA zeE zfE zeI zeO zeU zdO zdU zdWA zcKHA zeE zfE zeI zeO zeU zdK zeA zeE zfE zeI zeO
zeU zcLA zdE zeE zdHA zeE zfE zeI zeO zeU zdI zdO zdU zcMA zdE zeE zdI zdO zdU zcNA zdE zeE zdG zdI
zdO zdU zcP zdA zdE zeE zdI zdO zdU zcRA zdE zeE zdI zdO zdU zcSA zdE zeE zdH zeA zeE zfE zeI zeO
zeU zdI zdO zdU zcTHA zeE zfE zeI zeO zeU zdLA zeE zfE zeHA zfE zgE zfI zfO zfU zeI zeO zeU zdSA zeE
zfE zeI zeO zeU zdTA zeE zfE zeI zeO zeSA zfE zgE zfI zfO zfU zeU zcWA zdE zeE zdI zdO zdU zcYA zdE
zeE zdI zdO zdU zcZ zdA zdE zeE zdI zdO zdU uE uHI_SIGN uI vI uO vO uWA wA vE vI wI vO wO tE
uASTERN_W uN tF uA vA wI uE uI vI vNAL_ACUTE zBOTTOM_HALF_RING zDOUBLE_ACUTE
zhSHORT_VERTICAL_STROKES zcWN_TACK zGRAVE zMIDDLE_DOT zPLUS zRAISED_DOT zbIGHT_HALF_RING zcNG
zSHORT_HORIZONTAL_STROKE zbMALL_RING zTOP_HALF_RING uO vO uULL_STOP uWAA tGLOTTAL_STOP tHK uYPHEN tI
uI uN tK uA vA wI vY uE uI vI uO vO uW vA wA wY vE vI wI vO wO tL uA vA wI vY uE uH vA wA vI wI vO
wO uI vI uO vO uWA wA vE vI wI vO wO tM uA vA wI vY uE vDIAL_L zbR uH uI vI uO vO wSE-CREE_SK uWA wA
vE vI wI vO wO tN u-CREE_THE zdI zeI uA vA wI vSKAPI_CWAA zcKWAA zcMWAA zcNWAA zcS-W zdCWA zdKW zfA
zdPWA zdTWA zdWAA zcTWAA zcWAA zdOO zcYWAA vTTILIK_HA zfA zeI zfI zeO zfO zdSHRA zhA zgI zhI zgO zhO
vY uE uG vA wA xI wI vI wI vO wO uH uI vI uNG wA xA wI xI wO xO uO vO vY uUNAVIK_H zdA zeA zdE zdI
zeI zdO zeO yUT_H uWA wA vE vI wI vO wO tO uJIBWAY_C zcK zcM zcN zdWI zfI zeO zfO zcP zcS zdH zcT uN
uO uY tP uA vA wI vY uE uI vI uO vO vY uWA wA vE vI wI vO wO wY tQ uA vA wI vI uI vI uO vO tR
u-CREE_RE zcWE uA vA wI vY uE uI vI uO vO uWA wA vEE vI wI vO wO tS uA vA wI vY wISI_HA zcE zcI zcO
zdO zbJI zcU zdU zbM zbSHA zdE zdI zdO zeO zdWE zbTH zbYI uE uH vA wA wY vE vI wI vO wO wY vWA xA wE
wI xI wO xO xY uI vI uO vO vUTH-SLAVEY_KAH ziEH ziIH ziOH vY uPA vE vI vO uW vA wA vE vI wI vO wO tT
uA vA wI vY uE uH v-CREE_TH zeA zfA zeE zeI zfI zeO zfO vA wA vE vI wI vO wO vWA xA wE uI vI uLHA wE
wI wO xO wWE uO vO uTA vE vH wA xA wE wI wO xO wWE vI vO uWA wA vE vI wI vO wO uYA vE vI vO tWA vA
vY uE vST-CREE_CWA zhA zgE zgI zhI zgO zhO zeFWAA zeKWA zhA zgE zgI zhI zgO zhO zeL zfA zgA zfE zfO
zgO zfWA zhA zgE zgI zhI zgO zhO zeM zfWA zhA zgE zgI zhI zgO zhO zeNWA zhA zgE zeP zfWA zhA zgE zgI
zhI zgO zhO zeR zfA zfE zfI zfO zfWAA zeSHWA ziA zhE zhI ziI zhO ziO zfWA zhA zgE zgI zhI zgO zhO
zeTHWAA zfWA zhA zgE zgI zhI zgO zhO zeWA zgA zfE zfI zgI zfO zgO zeY zfWA zhA zgE zgI zhI zgO zhO
xERN_W uI vI uO vO wDS-CREE_FINAL_TH zfTH zhA zhE zhI zhO zhWA zjA ziEE ziI zjI ziO zjO tY
u-CREE_COO zbKOO zbLOO zbMOO zbNOO zbOO zbPOO zcWAA zbSOO zbTOO zbW zbYOO uA vA wI vY uE uI vI uO vO
vY uWA wA vE vI wI vO wO dCEL g_CHARACTER hTAG gLATION_X fR dDLE eY dNED_FOOD dOE cPITULUM dRICORN
cR_SLIDING dD_FILE_BOX fINDEX k_DIVIDERS dE_OF eT f_INSERTION_POINT dIAN_LETTER_A p2 oB oC-18 q39 oD
p2 oE p2 oG p2 oI pI oK p2 oL pD q2 oM pB q2 q3 q4 oN pD pG pN oO oP p2 oQ oR pR oS pH q2 pS pT q2
oT pT q2 oU pU qU r2 r3 rU oX dON eUSEL_HORSE dP_STREAMER eENTRY_SAW dRIAGE_RETURN eOT cSTLE cT
d_FACE i_WITH_TEARS_OF_JOY oWRY_SMILE cUCASIAN_ALBANIAN_CITATION_MARK tLETTER_ALT zcOR zbBET zbCAR
zdYN zcHA zeT zdI zdOY zcYAW zeY zbDAT zcYAN zcZAY zdYAY zbEB zcYN zbFAM zbGHEYS zcIM zbHEYT zbINYA
zcRB zcWN zbJAYN zcHOX zbKAR zcIW zbLAN zcYIT zbMAQ zbNOWC zbON zbPEN zcIWR zbQAR zdY zbRAT zbSEYK
zcHA zeK zdOY zbTAS zcIWR zcYAY zbVEYZ zbXEYN zbYAYD zcOWD zbZARL zcHA zdIL dTION_SIGN bCH bEDI_SIGN
eLLA cLTIC_CROSS cNT_SIGN eRE_LINE_SYMBOL gLINE_LOW_LINE lOVERLINE cRES bGJ bHAINS eR dKMA_AU_MARK
hDANDA iIGIT_EIGHT nFIVE oOUR nNINE nONE nSEVEN oIX nTHREE oWO nZERO iOUBLE_DANDA hLETTER_AA oBAA
pHAA oCAA pHAA oDAA pDAA qHAA pHAA oE oGAA pHAA oHAA oI oJAA pHAA oKAA pHAA oLAA pHAA oMAA oNAA pGAA
pNAA pYAA oPAA pHAA oRAA oSAA oTAA pHAA pTAA qHAA oU oVAA oWAA oYAA pYAA hMAAYYAA hO_MARK
hQUESTION_MARK hSECTION_MARK iIGN_ANUSVARA mCANDRABINDU mVISARGA hVIRAMA iOWEL_SIGN_A tA tI tU sE tI
sI tI sO tI sU tU dM_CONSONANT_SIGN_FINAL_H zbM zbNG uLA uRA uWA uYA fDIGIT_EIGHT lFIVE mOUR lNINE
lONE lSEVEN mIX lTHREE mWO lZERO fLETTER_A nI mBA nBA nHA mCHA oHA mDA nDA nHA mE mFINAL_CH sG sK sL
sN tG sP sR sSS sT sY mGA nHA mHA mI mJA nHA mKA nHA mLA mMA nUE mNA nGA oUE nHA oJA oUE nUE mO mPA
nHA nPA mRA mSA nSA mTA nHA mU mVA mYA fPUNCTUATION_DANDA sOUBLE_DANDA rSPIRAL rTRIPLE_DANDA
fVOWEL_SIGN_AA rI rU qEI qI rI qO rE qU rE dRACTER_TABULATION u_SET vWITH_JUSTIFICATION lIE
eT_WITH_DOWNWARDS_TREND lUPWARDS_TREND y_AND_YEN_SIGN cECK_MARK fER_BOARD n_FILL dERING_MEGAPHONE
eSE_WEDGE dQUERED_FLAG dROKEE_LETTER_A qDA rE rI rLA rO rU rV qE qGA rE rI rO rU rV qHA rE rI rNA rO
rU rV qI qKA qLA rE rI rO rU rV qMA rE rI rO rU rV qNA sH rE rI rO rU rV qO qQUA sE sI sO sU sV qS
rA rE rI rO rU rV qTA rE rI rLA sE sI sO sU sV rSA sE sI sO sU sV qU qV qWA rE rI rO rU rV qYA rE rI
rO rU rV jSMALL_LETTER_A wDA xE xI xLA xO xU xV wE wGA xE xI xO xU xV wHA xE xI xNA xO xU xV wI wKA
wLA xE xI xO xU xV wMA xE xI xO xU xV wNA yH xE xI xO xU xV wO wQUA yE yI yO yU yV wS xA xE xI xO xU
xV wTA xE xI xLA yE yI yO yU yV xSA yE yI yO yU yV wU wV wWA xE xI xO xU xV wYA xE xI xO xU xV eRIES
fY_BLOSSOM dSTNUT cI_RHO dCKEN dLD fREN_CROSSING dPMUNK dRON cOCOLATE_BAR dPSTICKS
dRASMIAN_LETTER_ALEPH tYIN sBETH sCURLED_WAW sDALETH sGIMEL sHE uTH sKAPH sLAMEDH sMEM sNUN sPE
sRESH sSAMEKH tHIN tMALL_ALEPH sTAW sWAW sYODH sZAYIN lNUMBER_FOUR sONE v_HUNDRED sTEN tHREE tWENTY
uO cRISTMAS_TREE cURCH bINEMA cRCLE_DIVIDED_BY_HORIZONTAL_BAR_AND_TOP_HALF_DIVIDED_BY_VERTICAL_BAR
hWITH_ALL_BUT_UPPER_LEFT_QUADRANT_BLACK mHORIZONTAL_BAR mLEFT_HALF_BLACK nOWER_HALF_BLACK
mRIGHT_HALF_BLACK mSMALL_CIRCLE_TO_THE_RIGHT nUPERIMPOSED_X mTWO_HORIZONTAL_STROKES_TO_THE_RIGHT
mUPPER_HALF_BLACK sRIGHT_QUADRANT_BLACK mVERTICAL_FILL gD_ANTICLOCKWISE_ARROW
v-ROTATED_DIVISION_SIGN jSTERISK_OPERATOR iBOLD_X jULLET iC_WITH_OVERLAID_BACKSLASH jC jD
jROSS_FORMEE u_WITH_FOUR_DOTS zbTWO_DOTS oPOMMEE nING_LANES iDASH jIGIT_EIGHT oFIVE pOUR oNINE oONE
oSEVEN pIX oTHREE pWO oZERO kVISION_SIGN sLASH jOLLAR_SIGN_WITH_OVERLAID_BACKSLASH kT_OPERATOR
iEQUALS iGREATER-THAN iHANGUL_CHIEUCH w_A qIEUC u_A pHIEUH u_A pIEUNG u_A vU pKHIEUKH w_A qIYEOK v_A
pMIEUM u_A pNIEUN u_A pPHIEUPH w_A qIEUP u_A pRIEUL u_A pSIOS t_A pTHIEUTH w_A qIKEUT v_A
jEAVY_WHITE_RIGHTWARDS_ARROW jORIZONTAL_BAR_WITH_NOTCH jUMAN_FIGURE iIDEOGRAPH_ACCEPT tDVANTAGE
tLLIANCE tTTENTION sCENTRE tONGRATULATION uPY uRRECT sEARTH tIGHT tNTERPRISE tXCELLENT sFEMALE
tINANCIAL uRE uVE tOUR sHAVE tIGH sITEM sKINDERGARTEN tOTO sLABOR tEFT tOW sMALE tEDICINE uTAL tOON
sNAME tIGHT uNE sONE sPRINT sQUESTION sRELIGION uSOURCE vT tIGHT sSCHOOL tECRET uVEN tIX tOCIETY
tPECIAL tTOCK uUDY tUITABLE uN uPERVISE sTEN tHREE tWO sWATER tOOD jNFORMATION_SOURCE
jTALIC_LATIN_CAPITAL_LETTER_C zlR iKATAKANA_A rE rHA sE sI sO sU rI rKA sE sI sO sU rMA sE sI sO sU
rNA sE sI sO sU rO rRA sE sI sO sU rSA sE sI sO sU rTA sE sI sO sU rU rWA sE sI sO rYA sO sU
jOREAN_CHARACTER_CHAMKO zJUEUI iLATIN_CAPITAL_LETTER_A zeB zeC zeD zeE zeF zeG zeH zeI zeJ zeK zeL
zeM zeN zeO zeP zeQ zeR zeS zeT zeU zeV zeW zeX zeY zeZ oSMALL_LETTER_A zcB zcC zcD zcE zcF zcG zcH
zcI zcJ zcK zcL zcM zcN zcO zcP zcQ zcR zcS zcT zcU zcV zcW zcX zcY zcZ jESS-THAN iMINUS
jULTIPLICATION_SIGN_WITH_CIRCUMFLEX_ACCENT iNUMBER_EIGHTEEN uY_ON_BLACK_SQUARE qLEVEN pFIFTEEN tY
u_ON_BLACK_SQUARE qORTY u_EIGHT vFIVE wOUR vNINE vON_BLACK_SQUARE xE vSEVEN wIX vTHREE wWO rURTEEN
pNINETEEN pSEVENTEEN vY_ON_BLACK_SQUARE qIXTEEN tY_ON_BLACK_SQUARE pTEN s_ON_BLACK_SQUARE qHIRTEEN
uY v_EIGHT wFIVE xOUR wNINE wON_BLACK_SQUARE yE wSEVEN xIX wTHREE xWO qWELVE sNTY v_EIGHT wFIVE xOUR
wNINE wON_BLACK_SQUARE yE wSEVEN xIX wTHREE xWO iOPEN_CENTRE_EIGHT_POINTED_STAR iPARALLEL
jERPENDICULAR jLUS jOSTAL_MARK iREVERSE_SOLIDUS jING_OPERATOR iSQUARE iTIMES jRIANGLE q_DOWN
iVERTICAL_BAR iWHITE_BULLET oSTAR jZ iX iZERO_WITH_SLASH eULATION_FUNCTION fMFLEX_ACCENT fS_TENT
cTYSCAPE j_AT_DUSK bJK_COMPATIBILITY_IDEOGRAPH-2F800 zh1 zh2 zh3 zh4 zh5 zh6 zh7 zh8 zh9 zhA zhB zhC
zhD zhE zhF zg10 zh1 zh2 zh3 zh4 zh5 zh6 zh7 zh8 zh9 zhA zhB zhC zhD zhE zhF zg20 zh1 zh2 zh3 zh4
zh5 zh6 zh7 zh8 zh9 zhA zhB zhC zhD zhE zhF zg30 zh1 zh2 zh3 zh4 zh5 zh6 zh7 zh8 zh9 zhA zhB zhC zhD
zhE zhF zg40 zh1 zh2 zh3 zh4 zh5 zh6 zh7 zh8 zh9 zhA zhB zhC zhD zhE zhF zg50 zh1 zh2 zh3 zh4 zh5
zh6 zh7 zh8 zh9 zhA zhB zhC zhD zhE zhF zg60 zh1 zh2 zh3 zh4 zh5 zh6 zh7 zh8 zh9 zhA zhB zhC zhD zhE
zhF zg70 zh1 zh2 zh3 zh4 zh5 zh6 zh7 zh8 zh9 zhA zhB zhC zhD zhE zhF zg80 zh1 zh2 zh3 zh4 zh5 zh6
zh7 zh8 zh9 zhA zhB zhC zhD zhE zhF zg90 zh1 zh2 zh3 zh4 zh5 zh6 zh7 zh8 zh9 zhA zhB zhC zhD zhE zhF
zgA0 zh1 zh2 zh3 zh4 zh5 zh6 zh7 zh8 zh9 zhA zhB zhC zhD zhE zhF zgB0 zh1 zh2 zh3 zh4 zh5 zh6 zh7
zh8 zh9 zhA zhB zhC zhD zhE zhF zgC0 zh1 zh2 zh3 zh4 zh5 zh6 zh7 zh8 zh9 zhA zhB zhC zhD zhE zhF
zgD0 zh1 zh2 zh3 zh4 zh5 zh6 zh7 zh8 zh9 zhA zhB zhC zhD zhE zhF zgE0 zh1 zh2 zh3 zh4 zh5 zh6 zh7
zh8 zh9 zhA zhB zhC zhD zhE zhF zgF0 zh1 zh2 zh3 zh4 zh5 zh6 zh7 zh8 zh9 zhA zhB zhC zhD zhE zhF
zf900 zh1 zh2 zh3 zh4 zh5 zh6 zh7 zh8 zh9 zhA zhB zhC zhD zhE zhF zg10 zh1 zh2 zh3 zh4 zh5 zh6 zh7
zh8 zh9 zhA zhB zhC zhD zhE zhF zg20 zh1 zh2 zh3 zh4 zh5 zh6 zh7 zh8 zh9 zhA zhB zhC zhD zhE zhF
zg30 zh1 zh2 zh3 zh4 zh5 zh6 zh7 zh8 zh9 zhA zhB zhC zhD zhE zhF zg40 zh1 zh2 zh3 zh4 zh5 zh6 zh7
zh8 zh9 zhA zhB zhC zhD zhE zhF zg50 zh1 zh2 zh3 zh4 zh5 zh6 zh7 zh8 zh9 zhA zhB zhC zhD zhE zhF
zg60 zh1 zh2 zh3 zh4 zh5 zh6 zh7 zh8 zh9 zhA zhB zhC zhD zhE zhF zg70 zh1 zh2 zh3 zh4 zh5 zh6 zh7
zh8 zh9 zhA zhB zhC zhD zhE zhF zg80 zh1 zh2 zh3 zh4 zh5 zh6 zh7 zh8 zh9 zhA zhB zhC zhD zhE zhF
zg90 zh1 zh2 zh3 zh4 zh5 zh6 zh7 zh8 zh9 zhA zhB zhC zhD zhE zhF zgA0 zh1 zh2 zh3 zh4 zh5 zh6 zh7
zh8 zh9 zhA zhB zhC zhD zhE zhF zgB0 zh1 zh2 zh3 zh4 zh5 zh6 zh7 zh8 zh9 zhA zhB zhC zhD zhE zhF
zgC0 zh1 zh2 zh3 zh4 zh5 zh6 zh7 zh8 zh9 zhA zhB zhC zhD zhE zhF zgD0 zh1 zh2 zh3 zh4 zh5 zh6 zh7
zh8 zh9 zhA zhB zhC zhD zhE zhF zgE0 zh1 zh2 zh3 zh4 zh5 zh6 zh7 zh8 zh9 zhA zhB zhC zhD zhE zhF
zgF0 zh1 zh2 zh3 zh4 zh5 zh6 zh7 zh8 zh9 zhA zhB zhC zhD zhE zhF zfA00 zh1 zh2 zh3 zh4 zh5 zh6 zh7
zh8 zh9 zhA zhB zhC zhD zhE zhF zg10 zh1 zh2 zh3 zh4 zh5 zh6 zh7 zh8 zh9 zhA zhB zhC zhD zdF900 zg1
zg2 zg3 zg4 zg5 zg6 zg7 zg8 zg9 zgA zgB zgC zgD zgE zgF zf10 zg1 zg2 zg3 zg4 zg5 zg6 zg7 zg8 zg9 zgA
zgB zgC zgD zgE zgF zf20 zg1 zg2 zg3 zg4 zg5 zg6 zg7 zg8 zg9 zgA zgB zgC zgD zgE zgF zf30 zg1 zg2
zg3 zg4 zg5 zg6 zg7 zg8 zg9 zgA zgB zgC zgD zgE zgF zf40 zg1 zg2 zg3 zg4 zg5 zg6 zg7 zg8 zg9 zgA zgB
zgC zgD zgE zgF zf50 zg1 zg2 zg3 zg4 zg5 zg6 zg7 zg8 zg9 zgA zgB zgC zgD zgE zgF zf60 zg1 zg2 zg3
zg4 zg5 zg6 zg7 zg8 zg9 zgA zgB zgC zgD zgE zgF zf70 zg1 zg2 zg3 zg4 zg5 zg6 zg7 zg8 zg9 zgA zgB zgC
zgD zgE zgF zf80 zg1 zg2 zg3 zg4 zg5 zg6 zg7 zg8 zg9 zgA zgB zgC zgD zgE zgF zf90 zg1 zg2 zg3 zg4
zg5 zg6 zg7 zg8 zg9 zgA zgB zgC zgD zgE zgF zfA0 zg1 zg2 zg3 zg4 zg5 zg6 zg7 zg8 zg9 zgA zgB zgC zgD
zgE zgF zfB0 zg1 zg2 zg3 zg4 zg5 zg6 zg7 zg8 zg9 zgA zgB zgC zgD zgE zgF zfC0 zg1 zg2 zg3 zg4 zg5
zg6 zg7 zg8 zg9 zgA zgB zgC zgD zgE zgF zfD0 zg1 zg2 zg3 zg4 zg5 zg6 zg7 zg8 zg9 zgA zgB zgC zgD zgE
zgF zfE0 zg1 zg2 zg3 zg4 zg5 zg6 zg7 zg8 zg9 zgA zgB zgC zgD zgE zgF zfF0 zg1 zg2 zg3 zg4 zg5 zg6
zg7 zg8 zg9 zgA zgB zgC zgD zgE zgF zeA00 zg1 zg2 zg3 zg4 zg5 zg6 zg7 zg8 zg9 zgA zgB zgC zgD zgE
zgF zf10 zg1 zg2 zg3 zg4 zg5 zg6 zg7 zg8 zg9 zgA zgB zgC zgD zgE zgF zf20 zg1 zg2 zg3 zg4 zg5 zg6
zg7 zg8 zg9 zgA zgB zgC zgD zgE zgF zf30 zg1 zg2 zg3 zg4 zg5 zg6 zg7 zg8 zg9 zgA zgB zgC zgD zgE zgF
zf40 zg1 zg2 zg3 zg4 zg5 zg6 zg7 zg8 zg9 zgA zgB zgC zgD zgE zgF zf50 zg1 zg2 zg3 zg4 zg5 zg6 zg7
zg8 zg9 zgA zgB zgC zgD zgE zgF zf60 zg1 zg2 zg3 zg4 zg5 zg6 zg7 zg8 zg9 zgA zgB zgC zgD zf70 zg1
zg2 zg3 zg4 zg5 zg6 zg7 zg8 zg9 zgA zgB zgC zgD zgE zgF zf80 zg1 zg2 zg3 zg4 zg5 zg6 zg7 zg8 zg9 zgA
zgB zgC zgD zgE zgF zf90 zg1 zg2 zg3 zg4 zg5 zg6 zg7 zg8 zg9 zgA zgB zgC zgD zgE zgF zfA0 zg1 zg2
zg3 zg4 zg5 zg6 zg7 zg8 zg9 zgA zgB zgC zgD zgE zgF zfB0 zg1 zg2 zg3 zg4 zg5 zg6 zg7 zg8 zg9 zgA zgB
zgC zgD zgE zgF zfC0 zg1 zg2 zg3 zg4 zg5 zg6 zg7 zg8 zg9 zgA zgB zgC zgD zgE zgF zfD0 zg1 zg2 zg3
zg4 zg5 zg6 zg7 zg8 zg9 eRADICAL_BAMBOO nLUE nOLT_OF_CLOTH oNE oX nRUSH_ONE sTWO mC-SIMPLIFIED_BIRD
zCART zDRAGON zEAT zbVEN zFISH zbLY zbROG zGATE zbOLD zHORSE zLEAF zbONG zSALT zbEE zbHELL zbILK
zbPEECH zTANNED_LEATHER zbOOTH zbURTLE zWIND nHOKE nITY oVILIAN nLIFF oOTHES nOW mDEATH nIVINATION
nOG mEAT_ONE qTHREE rWO nWE nYE mFIRE nOOT mGHOST nRASS_ONE sTHREE tWO mHAND nEAD pRT_ONE sTWO nORN
mJ-SIMPLIFIED_DRAGON zEVEN zTOOTH zbURTLE nADE mKNIFE_ONE sTWO mLAME_FOUR rONE rTHREE sWO nONG_ONE
rTWO mMEAT oSH nOON oRTAR oTHER oUND_ONE sTWO mNET_FOUR qONE qTHREE rWO mOLD mPAW_ONE qTWO nERSON
mRAIN oM oP nEPEAT mSEAL oCOND_ONE tTHREE uWO nHEEP nILK oMPLIFIED_HALF_TREE_TRUNK yORN xWALK yHEAT
xYELLOW nMALL_ONE sTWO nNAKE oOUT_ONE sTWO nPIRIT_ONE tTWO nUN mTABLE nHREAD nIGER nURTLE mWALK_ONE
rTWO oTER_ONE sTWO nEST_ONE rTWO eSTROKE_BXG lD lH mG mP nWG mXWG mZ nG nT nW oG nZ oP oZ pG lN lP
mD mG mZ lQ lS mG mP mT mW nG nZ mZ nWG nZ lT mN lWG lXG bLAMSHELL_MOBILE_PHONE dPPER_BOARD
fING_HANDS_SIGN dSSICAL_BUILDING cEAR_SCREEN_SYMBOL cINKING_BEER_MUGS jGLASSES dPBOARD
cOCK_FACE_EIGHT_OCLOCK q-THIRTY mLEVEN_OCLOCK r-THIRTY lFIVE_OCLOCK p-THIRTY mOUR_OCLOCK p-THIRTY
lNINE_OCLOCK p-THIRTY lONE_OCLOCK o-THIRTY lSEVEN_OCLOCK q-THIRTY mIX_OCLOCK o-THIRTY lTEN_OCLOCK
o-THIRTY mHREE_OCLOCK q-THIRTY mWELVE_OCLOCK r-THIRTY nO_OCLOCK o-THIRTY fWISE_CLOSED_CIRCLE_ARROW
lONTOUR_INTEGRAL kDOWNWARDS_AND_UPWARDS_OPEN_CIRCLE_ARROWS kGAPPED_CIRCLE_ARROW kINTEGRAL
kOPEN_CIRCLE_ARROW kRIGHT_AND_LEFT_SEMICIRCLE_ARROWS pWARDS_AND_LEFTWARDS_OPEN_CIRCLE_ARROWS
zzd_WITH_CIRCLED_ONE_OVERLAY kTOP_SEMICIRCLE_ARROW lRIANGLE-HEADED_OPEN_CIRCLE_ARROW dSE_UP fD_BOOK
hINTERSECTION_WITH_SERIFS hLOCK_WITH_KEY hMAILBOX_WITH_LOWERED_FLAG uRAISED_FLAG hSUBSET
n_OR_EQUAL_TO jPERSET p_OR_EQUAL_TO hUMBRELLA iNION_WITH_SERIFS y_AND_SMASH_PRODUCT dUD
f_WITH_LIGHTNING lRAIN lSNOW lTORNADO dWN_FACE bOAT cCKROACH eTAIL_GLASS dONUT cFFIN cIN
cLLISION_SYMBOL dON f_EQUALS gSIGN cMBINING_ACUTE_ACCENT w_BELOW qTONE_MARK p-GRAVE-ACUTE qMACRON
lLMOST_EQUAL_TO_ABOVE zbBELOW lNNUITY_SYMBOL mTICLOCKWISE_ARROW_ABOVE yRING_OVERLAY lSTERISK_ABOVE
tBELOW kBINDU_BELOW lREVE p_BELOW p-MACRON mIDGE_ABOVE rBELOW kCANDRABINDU mRON p_BELOW lEDILLA
lIRCUMFLEX_ACCENT zc_BELOW lLOCKWISE_ARROW_ABOVE uRING_OVERLAY lOMMA_ABOVE v_RIGHT qBELOW
mNJOINING_MACRON zc_BELOW lYRILLIC_DASIA_PNEUMATA tHUNDRED_MILLIONS_SIGN zcTHOUSANDS_SIGN tKAVYKA
tLETTER_A zbBE zcIG_YUS zbCHE zbDE zcJERV zbEF zcL zcM zcN zcR zcS zd-TE zbFITA zbGHE zbHA zdRD_SIGN
zbI zcE zcOTIFIED_A zkBIG_YUS zkE zbKA zbLITTLE_YUS zbMONOGRAPH_UK zbO zcMEGA zbPE zbSHA zdCHA
zcOFT_SIGN zbTE zcSE zbU zcKRAINIAN_IE zbVE zbYAT zcERU zcI zcU zbZE zcHE tMILLIONS_SIGN
tPALATALIZATION vYEROK uOKRYTIE uSILI_PNEUMATA tTEN_MILLIONS_SIGN uHOUSAND_MILLIONS_SIGN uITLO
y_LEFT_HALF zRIGHT_HALF tVZMET kDELETION_MARK mVANAGARI_DIGIT_EIGHT zcFIVE zdOUR zcNINE zcONE
zcSEVEN zdIX zcTHREE zdWO zcZERO vLETTER_A zdKA zdNA zdPA zdRA zdU zdVI vSIGN_AVAGRAHA lIAERESIS
t_BELOW t-RING lOT_ABOVE t_LEFT uRIGHT oBELOW t_LEFT nTED_ACUTE_ACCENT rGRAVE_ACCENT
mUBLE_ACUTE_ACCENT rBREVE w_BELOW rCIRCUMFLEX_ABOVE rGRAVE_ACCENT rINVERTED_BREVE zg_BELOW rLOW_LINE
rMACRON x_BELOW rOPEN_MARK_BELOW sVERLINE rPARENTHESES_ABOVE sLUS_SIGN_ABOVE zcBELOW
rRIGHTWARDS_ARROW_BELOW tNG_BELOW rTILDE w_LEFT_HALF xRIGHT_HALF rVERTICAL_LINE_ABOVE zgBELOW
zbSTROKE_OVERLAY qD_CIRCUMFLEX_ACCENT mWN_TACK_BELOW oWARDS_ARROW kENCLOSING_CIRCLE zb_BACKSLASH
uDIAMOND uKEYCAP uSCREEN vQUARE uUPWARD_POINTING_TRIANGLE lQUALS_SIGN_BELOW kFERMATA lOUR_DOTS_ABOVE
kGLAGOLITIC_LETTER_AZU zdBIG_YUS zeUKY zdCHRIVI zdDJERVI zeOBRO zdFITA zeRITU zdGLAGOLI zdHERU zdI
zeNITIAL_IZHE zeOTATED_BIG_YUS zlSMALL_YUS zeZHE zdKAKO zdLJUDIJE zdMYSLITE zdNASHI zdONU zdPOKOJI
zdRITSI zdSHA zfTA zeLOVO zeMALL_YUS zdTSI zeVRIDO zdUKU zdVEDE zdYATI zeERI zgU zfSTU zeO zeU
zdZEMLJA zeHIVETE lRANTHA_DIGIT_FIVE zOUR yONE ySIX yTHREE zWO yZERO sLETTER_A zKA zNA zPA zVI
nPHEME_JOINER nVE_ACCENT w_BELOW qTONE_MARK p-ACUTE-GRAVE qMACRON mEEK_DIALYTIKA_TONOS qKORONIS
qMUSICAL_PENTASEME yTETRASEME zRISEME qPERISPOMENI qYPOGEGRAMMENI kHOMOTHETIC_ABOVE mOK_ABOVE mRN
kINFINITY mVERTED_BREVE y_BELOW vIDGE_BELOW tDOUBLE_ARCH_ABOVE zgBELOW lS_BELOW
kKATAKANA-HIRAGANA_SEMI-VOICED_SOUND_MARK zdVOICED_SOUND_MARK mVYKA_ABOVE_LEFT xRIGHT
kLATIN_LETTER_SMALL_CAPITAL_G zmL zmM zmN zmR qSMALL_LETTER_A zf_WITH_DIAERESIS zfE zfLPHA zfO zfV
zeB zfETA zeC zf_CEDILLA zeD zeE zfSH zfTH zeF zfLATTENED_OPEN_A_ABOVE zeG zeH zeI zfNSULAR_D zmG
zmR zmT zeK zeL zf_WITH_DOUBLE_MIDDLE_TILDE zfONG_S zeM zeN zeO zf_WITH_DIAERESIS
zlLIGHT_CENTRALIZATION_STROKE zeP zeR zf_BELOW zgROTUNDA zeS zfCHWA zeT zfURNED_W_BELOW zeU
zf_WITH_DIAERESIS zlLIGHT_CENTRALIZATION_STROKE zeV zeW zf_BELOW zeX zeZ lEFT_ANGLE_ABOVE vBELOW
qRROW_ABOVE vBELOW uHEAD_ABOVE zBELOW pHALF_RING_ABOVE zBELOW rRPOON_ABOVE pPARENTHESIS_ABOVE_LEFT
zcBELOW_LEFT pRIGHT_ARROW_ABOVE zcBELOW pTACK_BELOW oWARDS_ARROW_OVERLAY
uHARPOON_WITH_BARB_DOWNWARDS lIGATURE_LEFT_HALF zd_BELOW tRIGHT_HALF ze_BELOW
nHT_CENTRALIZATION_STROKE_BELOW lONG_DOUBLE_SOLIDUS_OVERLAY pSOLIDUS_OVERLAY qTROKE_OVERLAY
pVERTICAL_LINE_OVERLAY mW_LINE kMACRON q_BELOW rLEFT_HALF zb_BELOW rRIGHT_HALF zc_BELOW q-ACUTE
rBREVE rGRAVE lINUS_SIGN_BELOW kNOT_TILDE_ABOVE lUMBER_SIGN_ABOVE kOGONEK q_ABOVE
lLD_PERMIC_LETTER_AN zdDOI zdNENOE zdSII zdZATA lPEN_MARK_BELOW lVERLINE kPALATALIZED_HOOK_BELOW
mRENTHESES_ABOVE wBELOW wOVERLAY lLUS_SIGN_ABOVE uBELOW kRETROFLEX_HOOK_BELOW mVERSE_SOLIDUS_OVERLAY
rD_COMMA_ABOVE lIGHT_ARROW_ABOVE wBELOW vHEAD_ABOVE zcND_DOWN_ARROWHEAD_BELOW zfUP_ARROWHEAD_BELOW
zbBELOW qHALF_RING_ABOVE zbBELOW sRPOON_ABOVE qPARENTHESIS_ABOVE_RIGHT zdBELOW_RIGHT qTACK_BELOW
pWARDS_HARPOON_WITH_BARB_DOWNWARDS mNG_ABOVE pBELOW pOVERLAY kSEAGULL_BELOW lHORT_SOLIDUS_OVERLAY
rTROKE_OVERLAY qVERTICAL_LINE_OVERLAY lNAKE_BELOW lQUARE_BELOW sRACKETS_ABOVE
lTRONG_CENTRALIZATION_STROKE_BELOW lUSPENSION_MARK kTHREE_DOTS_ABOVE lILDE p_BELOW qLEFT_HALF_BELOW
qOVERLAY qRIGHT_HALF_BELOW lRIPLE_ACUTE_ACCENT rDOT rUNDERDOT lURNED_COMMA_ABOVE kUP_TACK_ABOVE
sBELOW mWARDS_ARROW_BELOW lR_ABOVE lS_ABOVE kVERTICAL_LINE_ABOVE yBELOW tTILDE kWIDE_BRIDGE_ABOVE
pINVERTED_BRIDGE_BELOW mGGLY_LINE_BELOW kX_ABOVE mBELOW l-X_BELOW kZIGZAG_ABOVE rBELOW dET dMA
eERCIAL_AT lMINUS_SIGN dPASS eLEMENT eOSITION_SYMBOL eRESSION cNFETTI_BALL eOUNDED_FACE eUSED_FACE
dGRUENT_WITH_DOT_ABOVE dICAL_TAPER dJUNCTION dSTRUCTION_SIGN nWORKER dTAINS_AS_MEMBER
mNORMAL_SUBGROUP zc_OR_EQUAL_TO jWITH_LONG_HORIZONTAL_STROKE oOVERBAR
oVERTICAL_BAR_AT_END_OF_HORIZONTAL_STROKE eINUOUS_UNDERLINE_SYMBOL eOUR_INTEGRAL eROL_KNOBS
iSEQUENCE_INTRODUCER dVENIENCE_STORE cOKED_RICE eIE fNG cPTIC_CAPITAL_LETTER_AKHMIMIC_KHEI xLFA
wBOHAIRIC_KHEI wCROSSED_SHEI yYPTOGRAMMIC_EIE zlGANGIA zlNI zlSHEI wDALDA xEI xIALECT-P_ALEF zhHORI
zhKAPA zhNI wEIE wFEI xI wGAMMA yNGIA wHATE xORI wIAUDA wKAPA xHEI yI xSI wL-SHAPED_HA xAULA wMI wNI
wO xLD_COPTIC_AIN ziDJA ziESH ziGANGIA ziHA zkT zjEI zjORI ziOOU ziSHEI zkIMA zbNUBIAN_NGI zjYI
ziSHIMA ziWAU xOU wPI xSI wRO wSAMPI xHEI yIMA xIMA xOU wTAU xHETHE wUA wVIDA wZATA
iOMBINING_NI_ABOVE rSPIRITUS_ASPER zbLENIS hEPACT_DIGIT_EIGHT tFIVE uOUR tNINE tONE tSEVEN uIX
tTHREE uWO nNUMBER_EIGHT_HUNDRED zY uFIFTY wVE_HUNDRED vORTY wUR_HUNDRED uNINE_HUNDRED yTY
uONE_HUNDRED uSEVEN_HUNDRED zTY vIX_HUNDRED xTY uTEN vHIRTY wREE_HUNDRED vWENTY wO_HUNDRED
nTHOUSANDS_MARK hFRACTION_ONE_HALF iULL_STOP hMORPHOLOGICAL_DIVIDER hOLD_NUBIAN_DIRECT_QUESTION_MARK
sFULL_STOP sINDIRECT_QUESTION_MARK sVERSE_DIVIDER hSMALL_LETTER_AKHMIMIC_KHEI vLFA uBOHAIRIC_KHEI
uCROSSED_SHEI wYPTOGRAMMIC_EIE zjGANGIA zjNI zjSHEI uDALDA vEI vIALECT-P_ALEF zfHORI zfKAPA zfNI
uEIE uFEI vI uGAMMA wNGIA uHATE vORI uIAUDA uKAPA vHEI wI vSI uL-SHAPED_HA vAULA uMI uNI uO
vLD_COPTIC_AIN zgDJA zgESH zgGANGIA zgHA ziT zhEI zhORI zgOOU zgSHEI ziIMA yNUBIAN_NGI zhYI zgSHIMA
zgWAU vOU uPI vSI uRO uSAMPI vHEI wIMA vIMA vOU uTAU vHETHE uUA uVIDA uZATA iYMBOL_KAI pHI_RO oMI_RO
oPI_RO oSHIMA_SIMA pTAUROS oTAU_RO dYLEFT_SYMBOL eRIGHT_SIGN cRAL dNISH_VERSE_DIVIDER dRESPONDS_TO
cUCH_AND_LAMP dNTERBORE hSINK fING_ROD_TENS_DIGIT_EIGHT yFIVE zOUR yNINE yONE ySEVEN zIX yTHREE zWO
nUNIT_DIGIT_EIGHT yFIVE zOUR yNINE yONE ySEVEN zIX yTHREE zWO dPLE_WITH_HEART cW d_FACE bR cAB
cEDIT_CARD dSCENT_MOON cICKET h_BAT_AND_BALL cOCODILE dISSANT dSS_MARK gOF_JERUSALEM jLORRAINE
gPATTY_WITH_LEFT_CROSSBAR rRIGHT_CROSSBAR hOMMEE m_WITH_HALF-CIRCLE_BELOW fED_FLAGS
iNEGATIVE_SQUARED_LATIN_CAPITAL_LETTER_P iSWORDS fING_LANES dWN cUTCH dZEIRO_SIGN cYING_CAT_FACE
hFACE dSTAL_BALL bSI bUBE_ROOT cCUMBER cNEIFORM_NUMERIC_SIGN_EIGHT_ASH zeDISH zeGESH2 zeSHAR2 zeU
zf_VARIANT_FORM zeVARIANT_FORM_USSU zv3 yLAMITE_FIFTY zhORTY zgONE_THIRD zgTWO_THIRDS xFIVE_ASH
zg_TENU zdBAN2 zh_VARIANT_FORM zeURU zdDISH zdGESH2 zhU zdSHAR2 zhU zeIXTHS_DISH zdU ze_VARIANT_FORM
yOUR_ASH zg_TENU zdBAN2 zh_VARIANT_FORM zeURU zdDISH zdGESH2 zhU zdSHAR2 zhU zdU ze_VARIANT_FORM
zdVARIANT_FORM_LIMMU zv_A zwB zv4 xNIGIDAESH zeMIN zNE_ASH zdDISH zdGESH2 zdSHAR2 zdU
ze_VARIANT_FORM zdVARIANT_FORM_ILIMMU zw_A zw3 zw4 xOLD_ASSYRIAN_ONE_QUARTER zpSIXTH yNE_BAN2 zdURU
zcEIGHTH_ASH zdSHE3 zcGESH2 zgU zcHALF_GUR zcQUARTER_ASH zkGUR zcSHARU zcTHIRD_DISH ziVARIANT_FORM_A
xSEVEN_ASH zeDISH zeGESH2 zeSHAR2 zeU zf_VARIANT_FORM zeVARIANT_FORM_IMIN_A zwB zv3
yHAR2_TIMES_GAL_PLUS_DISH ztMIN yIX_ASH zf_TENU zcDISH zcGESH2 zcSHAR2 zcU zd_VARIANT_FORM
zcVARIANT_FORM_ASH9 xTHREE_ASH zh_TENU zeBAN2 zfURU zi_VARIANT_FORM zeDISH zeGESH2 ziU zeSHAR2
zj_VARIANT_FORM ziU zj_VARIANT_FORM zeVARIANT_FORM_ESH16 zu21 yWO_ASH zf_TENU zcBAN2 zdURU zcESHE3
zcGESH2 zgU zcSHAR2 zgU zcTHIRDS_DISH zjVARIANT_FORM_A kPUNCTUATION_SIGN_DIAGONAL_COLON zlQUADCOLON
zlTRICOLON zcOLD_ASSYRIAN_WORD_DIVIDER zcVERTICAL_COLON kSIGN_A q_TIMES_A xBAD xGAN2_TENU xHA xIGI
xLAGAR_GUNU xMUSH xSAG q2 qB r_GUNU sTIMES_ASH2 yDUN3_GUNU yGAL zbN2_TENU yHA yIGI_GUNU zMIN yLAGAB
yNUN zc_TENU ySHESH zbU2 yU_PLUS_U_PLUS_U r2 s_TIMES_A zBALAG zGAN2_TENU zME_PLUS_EN zSHA3 zTAK4 qD
r_TIMES_ESH2 qK r_TIMES_ERIN2 ySHITA_PLUS_GISH qL r_TIMES_AL yDIM2 yGISH yHA yKAD3 zI ySHE yUSH rAN
rEPH qMAR t_TIMES_KUG zbSHE qN r_OVER_AN sPLUS_NAGA_OPPOSING_AN_PLUS_NAGA zdSQUARED sTHREE_TIMES
rSHE qPIN qRAD t_TIMES_KUR rKAB qSAL2 rH s_KABA_TENU tOVER_ASH_OVER_ASH
zl_CROSSING_ASH_OVER_ASH_OVER_ASH zdTUG2_OVER_TUG2_TUG2_OVER_TUG2_PAP tZIDA_TENU s2 sGAB pBA rD
s_TIMES_DISH_TENU rG3 rHAR2 v_TIMES_AB2 zdNI zdZA rL s_OVER_BAL sAG rR sA2 qI r_TIMES_A yGAR
yIGI_GUNU qU r_CROSSING_BU sOVER_BU_AB zbTIMES_NA2 zbUN rLUG u_OVER_BULUG rR s2 pDA r_TIMES_TAK4 rG
s_KISIM5_TIMES_A_PLUS_MASH ziMAR zhBALAG ziI zhGA zj_PLUS_MASH ziI zjR2 ziUD zhHA zhIR zj_PLUS_LU
zhKAK zhLA ziU zj_PLUS_MASH2 zjM zhNE zhPAP_PLUS_PAP zhSI zhTAK4 zhU2_PLUS_GIR2 zpMASH ziSH
tTIMES_KUR s3 rM rR sA3 t4 qI rB rM s_TIMES_IGI zSHE zU_U_U s2 t_TIMES_UD rN s_KASKAL_U_GUNU_DISH
rSH t_PLUS_SHU qU r_GUNU sOVER_DU sSHESHIG rB s_TIMES_ESH2 zSHE s2 rG s_TIMES_ANSHE zbSH zd_AT_LEFT
zDIN zbUN zERIN2 zGA zbI zcR2_GUNU zcSH zHA zbI zIGI_GUNU zKASKAL zbUR zcSHU2 zg_PLUS_KASKAL
zLAK-020 zcM zd_TIMES_KUR zbUH_PLUS_GISH zMASH zbES zbI zNI zPI zSHE zbI_GUNU sUD rH rN s3 t_GUNU
y_GUNU s4 rR2 pE q_OVER_E_NUN_OVER_NUN rTIMES_PAP q2 r_TIMES_A_PLUS_HA_PLUS_DA yGAR yKUR yMI yPAP
ySAL zHE yU qDIN qGIR qL qN r_CROSSING_EN sOPPOSING_EN sSQUARED sTIMES_GAN2 zd_TENU yME qREN rIN2
u_X qSH2 t_CROSSING_ESH2 qZEN t_SHESHIG_TIMES_ASH zjHI zjIGI_GUNU zjLA zlL zjME zlS zjSU uTIMES_A
zc_PLUS_LAL zl_TIMES_LAL zcN zbBAD zbDUN3_GUNU zk_GUNU zbGUD zbHA zd_GUNU zbIGI_GUNU zbKASKAL
zh_SQUARED zcU3 zbLA zdL_TIMES_LAL zcI zcU zbSHE zcU zbU2 zcD pGA r_GUNU r2 s_OVER_GA2
tTIMES_A_PLUS_DA_PLUS_HA zhHA zhIGI zbB2_TENU_PLUS_TAB zbN zc_PLUS_KAK_PLUS_A zbSH zd2 ze_PLUS_GAL
zBAD zcHAR2 zcR_PLUS_RA zbUR zd_PLUS_RA zDA zbI zcM_GUNU zeTIMES_SHE zbUB zcG_TIMES_IGI_GUNU
zkKASKAL zEL zc_PLUS_LA zbN zc_TIMES_GAN2_TENU zbREN zGA zcN2_TENU zcR zd_PLUS_DI zjNE zbI zc4
zd_PLUS_A zcR2_PLUS_SU zHA_PLUS_A ziLU_PLUS_ESH2 zcL zd_PLUS_LA zbI_PLUS_LI zbUB2 zIGI_GUNU
zbSH_PLUS_HU_PLUS_ASH zKAK zcSKAL zbID zd_PLUS_LAL zbU3_PLUS_AN zcSHU2_PLUS_KASKAL zLA zcM
zd_TIMES_KUR zbUH zME_PLUS_EN zbI zbUSH zNE zc_PLUS_E2 ziGI zbUN zd_OVER_NUN zPA zSAL zcR zbHE
zd_PLUS_TUR zcID zdM zbUM zTAK4 zU zbD zc_PLUS_DU zZIZ2 rBA t_CROSSING_GABA uROTATED_NINETY_DEGREES
rD s_OVER_GAD_GAR_OVER_GAR rL s_GAD_OVER_GAD_GAR_OVER_GAR sAM rM rN s2 t_CROSSING_GAN2 uOVER_GAN2
uTENU rR s3 rSHAN qE22 rSHTIN w_TIMES_KUR zeU qI r_CROSSING_GI sTIMES_E yU r4 s_CROSSING_GI4
tOVER_GI4 rDIM rG rR2 t_GUNU s3 t_TIMES_A_PLUS_IGI zbGAN2_TENU zbIGI zbLU_PLUS_IGI zbPA rSAL sH
t_CROSSING_GISH uTENU vIMES_BAD zbGISH_CROSSING_GISH zbTAK4 qU r_CROSSING_GU r2 s_GUNU
tTIMES_IGI_GUNU zKAK zd_TIMES_IGI_GUNU zNUN zSAL_PLUS_TUG2 rD s_OVER_GUD_LUGAL tPLUS_GISH_TIMES_TAK4
tTIMES_A_PLUS_KUR zKUR rL rM s_TIMES_SHE rR s7 sUN tSH pHA r_GUNU sTENU w_GUNU rL qI r_TIMES_ASH
zc_OVER_HI_TIMES_ASH zc2 yBAD yDISH yGAD yKIN yNUN ySHE yU qU rB2 t_TIMES_AN zbHAL zbKASKAL zbLISH
zbUD rL2 rSH pI q_A qB qDIM t_OVER_IDIM_BUR zfSQUARED qG rI s_DIB tGUNU
tOVER_IGI_SHIR_OVER_SHIR_UD_OVER_UD tRI qL r_TIMES_GAN2_TENU r2 qM r_CROSSING_IM sOPPOSING_IM
sSQUARED sTIMES_TAK4 rIN qN qR qSH pKA r_TIMES_A zD zb_PLUS_KU3 zNSHE zSH2 zc3 yBAD zbLAG zbR zI zU
yERIN2 zSH2 yGA zbL zbN2_TENU zbR zc_PLUS_SHA3_PLUS_A zI zbR2 zbSH zd_CROSSING_GISH zePLUS_SAR zU
zbD zbR7 yHI_TIMES_ASH2 yIGI zM yKA zbK zI zbD yLI zU zbM yME zb_PLUS_DU zhGI zhTE zI zb_PLUS_NUNUZ
yNE zUN yPA zI yRU ySA zbR zHA zbE zbID zbU zcL zIG zUHUR yTAR zU yU z_U_U z2 zD zMUM_TIMES_PA zR
zb2 zSH yZI r2 s_CROSSING_KA2 rB rD2 s3 s4 s5 t_OVER_KAD5 rK s_TIMES_IGI_GUNU rL s_CROSSING_KAL
tTIMES_BAD rM2 s4 rP_ELAMITE rSKAL v_LAGAB_TIMES_U_OVER_LAGAB_TIMES_U
wOVER_KASKAL_LAGAB_TIMES_U_OVER_LAGAB_TIMES_U qESH2 qI r_TIMES_BAD yU zD rD rN rSAL sH sIM5
v_OVER_KISIM5 qU r_OVER_HI_TIMES_ASH2_KU_OVER_HI_TIMES_ASH2 r3 r4 s_VARIANT_FORM r7 rL s_GUNU rN rR
s_OPPOSING_KUR rSHU2 qWU318 pLA rGAB u_SQUARED vTIMES_A zd_PLUS_DA_PLUS_HA zjGAR zjLAL zdL zdN
zdSH_ZIDA_TENU zcBAD zdI zcDAR zcEN zcGA zeR zdI zdUD zf_PLUS_GUD zcHA zeL zdI_TIMES_NUN zcIGI_GUNU
zdM ze_PLUS_HA zkLU zcKI zeN zdU3 zeL zf_PLUS_HI_PLUS_A zcLAGAB zdISH zdU zeL zcME ze_PLUS_EN zdUSH
zcNE zcSHE_PLUS_SUM zeITA_PLUS_GISH_PLUS_ERIN2 zsTENU zeU2 zg_PLUS_SHU2 zdUM zcTAG zeK4
zdE_PLUS_A_PLUS_SU_PLUS_NA zcU zd_PLUS_A zjU_PLUS_U zd2_PLUS_ASH zdD zdSH zcZU_OVER_ZU tR u_GUNU
z_OVER_LAGAR_GUNU_SHE vTIMES_SHE zf_PLUS_SUM rHSHU rK-003 u21 v5 u30 u50 v1 u62
u79_OVER_LAK-079_GUNU u80 v1_OVER_LAK-081 u92 t130 u42 t210 v9 u20 v5 v8 u38 u65 v6 t343 v7 v8 u83
v4 u90 t441 v9 w_TIMES_GU zeIGI zePAP_PLUS_LU3 znPAP_PLUS_LU3 zeU2_PLUS_BA u50 v7 u70 u83 u90 v2 v3
v5 t550 t608 u17 w_TIMES_ASH zeBAD zeDUN3_GUNU_GUNU zeKU3 zeLA zeTAR zfE zeU2 zfD zfRUDA u36 u48
w_TIMES_DUB zeGA zeIGI zh_GUNU zeNI zePAP_PLUS_PAP_PLUS_LU3 zeSHESH_PLUS_KI zeUD zfRUDA t724 u49 rL
s_TIMES_LAL rM s_TIMES_KUR zd_PLUS_RU qI rL rMMU2 rSH qU r_TIMES_BAD r2 s_CROSSING_LU2
tGUNU_TIMES_ASH tOPPOSING_LU2 tSHESHIG zb_TIMES_BAD uQUARED tTENU uIMES_AL zBAD zDISH zESH2
ze_PLUS_LAL zfTENU zGAN2_TENU zHAL zbI_TIMES_BAD zIM zKAD2 zd3 ze_PLUS_ASH zbI zLA_PLUS_ASH zcGAB
zME_PLUS_EN zNE zbU zPAP zd_PLUS_PAP_PLUS_LU3 zSHU zbI_PLUS_ASH zcK2_PLUS_BU zTAK4 zbUG2 r3 rGAL
u_OPPOSING_LUGAL wVER_LUGAL vSHESHIG rH rL rM s_OVER_LUM zc_GAR_OVER_GAR pMA r_GUNU sTIMES_TAK4 r2
rH rR rSH t2 qE rS sH qI r_PLUS_ZA7 rN qU r_OVER_MU rG s_GUNU rNSUB rRGU2 rSH t_CROSSING_MUSH
uOVER_MUSH ze_TIMES_A_PLUS_NA zlGA zlKAK uTIMES_A zbKUR zbZA t3 u_GUNU vTIMES_A zd_PLUS_DI zcDI zcZA
pNA r2 r4 rGA t_INVERTED uOPPOSING_NAGA uTIMES_SHU_TENU tR rM s_NUTILLU s2 qE r_SHESHIG sTIMES_A yUD
qI r_TIMES_E r2 rM s_TIMES_GAN2_TENU zcR_PLUS_GAN2_TENU rN s9 sDA2 v_TIMES_AN zeSH zg_PLUS_ASH zdBAL
zdDIM_GUNU zdGI zfSH zeUD zfL zdHI zdKESH2 zdLAK-050 zdMASH zeE_PLUS_GAN2_TENU zdNE zeUN
zdPAP_PLUS_PAP zdSHE zg_PLUS_A_AN znSH zp_PLUS_ASH zdU ze_PLUS_U ze2_PLUS_ASH zeRUDA zeSH rSAG qU
r11 t_OVER_NU11_BUR_OVER_BUR uROTATED_NINETY_DEGREES uTENU rN s_CROSSING_NUN zg_LAGAR_OVER_LAGAR
tLAGAR_TIMES_GAR zgMASH zgSAL zj_OVER_NUN_LAGAR_TIMES_SAL zgUSH tOVER_NUN tTENU sUZ
u_AB2_TIMES_ASHGAB zgBI zgDUG zgGUD zgIGI_GUNU zgKAD3 zgLA zgNE zgSILA3 zgU2 vKISIM5_TIMES_BI zl_U
pPA rD rN rP qESH2 u_ASTERISK qI r_CROSSING_PI sTIMES_A zB yBI zU yE yI zB yU z2 rR2 sIG
u_OPPOSING_PIRIG vTIMES_KAL zcUD zcZA pRA rB qI qU pSA rG s_GUNU x_TIMES_HA tNUTILLU tOVER_SAG
tTIMES_A zDU zcB zEN zHA zIGI_GUNU zKAK zbUR zLUM zMI zNUN zSAL zbHE_AT_LEFT zcID zTAB zcK4 zU2 zbB
zbM zbR zbSH rL s_LAGAB_TIMES_ASH2 rNGA2 rR qHA s3 t_TIMES_A zbBAD zbGISH zbNE zbSHU2 zbTUR zbU
zc_PLUS_A s6 t_TENU sB6 sR2 rE s_HU tOVER_SHE zc_GAD_OVER_GAD_GAR_OVER_GAR
zdTAB_OVER_TAB_GAR_OVER_GAR tPLUS_HUB2 yNAM2 ySAR sG9 sN sSH u2 uLAM rID t_TIMES_A zbIM sM t_TIMES_A
zbBAL zcULUG zbDIN zbGAR zbIGI ze_GUNU zbKUSHU2 zbLUL zbMUG zbSAL sNIG sR t_OVER_SHIR_BUR_OVER_BUR
uTENU sTA rU s_OVER_INVERTED_SHU s2 t_PLUS_DUG_TIMES_NI zE2_TIMES_AN sBUR qI r_GUNU sTIMES_TAK4 rG
s4 t_OVER_SIG4_SHU2 rK2 rLA3 qU r_OVER_SU rD s2 rHUR rM sASH rR s9 pTA r_ASTERISK sGUNU sTIMES_HI
yMI rB s_OVER_TAB_NI_OVER_NI_DISH_OVER_DISH tSQUARED rG s_TIMES_BI zGUD zSHE zcU zTUG2 zUD rK4
t_PLUS_SAG rR qE r_GUNU qI r_TENU r2 rL rR s_OVER_TIR zc_GAD_OVER_GAD_GAR_OVER_GAR tTIMES_TAK4 qU
rG2 rK rM s_TIMES_GAN2_TENU zTHREE_DISH rR s_OVER_TUR_ZA_OVER_ZA pU q_GUD
rOVER_U_PA_OVER_PA_GAR_OVER_GAR ySUR_OVER_SUR yU_REVERSED_OVER_U_REVERSED rU s_U q2 qB qD r_GUNU
sKUSHU2 sSHESHIG z_TIMES_BAD sTIMES_BAD yMI yU_PLUS_U_PLUS_U zo_GUNU rUG qM r_TIMES_LAGAB yME
zb_PLUS_DA ySHA3 yU rBIN rUM t_TIMES_KASKAL zbPA qN r_GUNU qR r_CROSSING_UR sSHESHIG r2 s_INVERTED
tTIMES_A_PLUS_HA zhNA zbL zHA zNUN zU2 zc_PLUS_ASH ziBI zbD r4 rI s3 rU s_TIMES_A zbSHGAB zBAR
zDARA3 zbUN zGA zcL zcN2_TENU zcR zbU zHA zIGI zbM zbSH zKI zLAK-668 zbU3 zcM zMIN zPA zSHE zbIG4
zTU zU_PLUS_GUD zbD zbRUDA sDA u_TIMES_U qSH s_TIMES_A zKU zcR zTAK4 s2 sUMX sX qTUKI qZ3
s_TIMES_KASKAL rU pZA r_SQUARED_TIMES_KUR sTENU r7 rG rMX qE2 qI r_OVER_ZI r3 rB s_KABA_TENU rG rZ2
qU r_OVER_ZU_PLUS_SAR r5 s_TIMES_A zTHREE_DISH_TENU rBUR rM cP_ON_BLACK_SQUARE eWITH_STRAW dCAKE
dIDO cRLING_STONE eY_BRACKET_EXTENSION gLOGICAL_AND oOR iOP dRENCY_EXCHANGE jSIGN eY_AND_RICE
dVED_STEM_PARAGRAPH_SIGN_ORNAMENT cSTARD eOMS cT_OF_MEAT bYCLONE cLINDRICITY cPRIOT_SYLLABLE_A rE rI
rJA sO rKA sE sI sO sU rLA sE sI sO sU rMA sE sI sO sU rNA sE sI sO sU rO rPA sE sI sO sU rRA sE sI
sO sU rSA sE sI sO sU rTA sE sI sO sU rU rWA sE sI sO rXA sE rZA sO eO-MINOAN_SIGN_CM001 w2 w4 w5 w6
w7 w8 w9 v10 w1 w2 xB w3 w5 w7 w9 v21 w3 w4 w5 w6 w7 w8 w9 v30 w3 w4 w5 w6 w7 w8 w9 v40 w1 w4 w6 w7
w9 v50 w1 w2 w3 w4 w5 w6 w8 w9 v60 w1 w2 w3 w4 w6 w7 w8 w9 v70 w1 w2 w3 w4 w5 xB w6 w8 w9 v80 w1 w2
w3 w4 w5 w6 w7 w8 w9 v90 w1 w2 w4 w5 w6 w7 w8 w9 u100 w1 w2 w3 w4 w5 w7 w8 w9 v10 w2 w4 u301 w2
cRILLIC_CAPITAL_LETTER_A z_WITH_BREVE zgDIAERESIS zBKHASIAN_CHE zm_WITH_DESCENDER zjDZE zjHA
zLEUT_KA yBARRED_O zh_WITH_DIAERESIS zbSHKIR_KA zE zIG_YUS zbNOCULAR_O zLENDED_YUS zROAD_OMEGA
zYELORUSSIAN-UKRAINIAN_I yCCHE zHE zc_WITH_DESCENDER zjIAERESIS ziVERTICAL_STROKE zLOSED_LITTLE_YUS
zROSSED_O yDCHE zE zJE zcRV zOUBLE_MONOCULAR_O zgO zWE zZE zcLO zbHE zbWE zbZE zcHE yE
z_WITH_DIAERESIS zF zL zb_WITH_DESCENDER zhHOOK zhMIDDLE_HOOK zhTAIL zM zb_WITH_TAIL zN
zb_WITH_DESCENDER zhHOOK zhLEFT_HOOK zhMIDDLE_HOOK zhTAIL zR zb_WITH_TICK zS zb_WITH_DESCENDER yFITA
yGHE zc_WITH_DESCENDER ziMIDDLE_HOOK ziSTROKE zo_AND_HOOK ziUPTURN zJE yHA zb_WITH_DESCENDER zhHOOK
zhSTROKE zbRD_SIGN zWE yI z_WITH_DIAERESIS zgGRAVE zgMACRON zE zb_WITH_BREVE zhGRAVE zO zbTA
zcIFIED_A ziBIG_YUS ziCLOSED_LITTLE_YUS ziE ziLITTLE_YUS ziYAT zZHITSA zg_WITH_DOUBLE_GRAVE_ACCENT
yJE yKA zb_WITH_DESCENDER zhHOOK zhSTROKE zhVERTICAL_STROKE zHAKASSIAN_CHE zJE zOMI_DE zfJE zfZJE
zeLJE zeNJE zeSJE zeTJE zeZJE zbPPA zSI yLHA zITTLE_YUS zJE yMONOCULAR_O zdGRAPH_UK yNEUTRAL_YER zJE
yO z_WITH_DIAERESIS zMEGA ze_WITH_TITLO zT yPE zb_WITH_DESCENDER zhMIDDLE_HOOK zSI yQA yREVERSED_DZE
ziTSE ziYU ziZE zHA zOUND_OMEGA ySCHWA ze_WITH_DIAERESIS zEMISOFT_SIGN zHA zbCHA zbHA
zd_WITH_DESCENDER zbORT_I zg_WITH_TAIL zfU zbWE zOFT_DE zeEL zfM zeSIGN zTRAIGHT_U zj_WITH_STROKE
yTCHE zE zb_WITH_DESCENDER zhMIDDLE_HOOK zSE zbHE zbSE zbWE zWE yU z_WITH_DIAERESIS zhOUBLE_ACUTE
zgMACRON zK zbRAINIAN_IE yVE yWE yYA zbE zbT zERU zd_WITH_BACK_YER zjDIAERESIS zI zN zU yZE
zb_WITH_DESCENDER ziIAERESIS zbMLYA zHE zc_WITH_BREVE ziDESCENDER zjIAERESIS zbWE sIGATURE_A_IE
zbEN_GHE zbTE_TSE jKAVYKA jLETTER_MULTIOCULAR_O qPALOCHKA qSMALL_CAPITAL_EL jPAYEROK jSMALL_LETTER_A
x_WITH_BREVE zeDIAERESIS xBKHASIAN_CHE zk_WITH_DESCENDER zhDZE zhHA xLEUT_KA wBARRED_O
zf_WITH_DIAERESIS ySHKIR_KA xE xIG_YUS yNOCULAR_O xLENDED_YUS xROAD_OMEGA xYELORUSSIAN-UKRAINIAN_I
wCCHE xHE z_WITH_DESCENDER zhIAERESIS zgVERTICAL_STROKE xLOSED_LITTLE_YUS xROSSED_O wDCHE xE xJE zRV
xOUBLE_MONOCULAR_O zeO xWE xZE zLO yHE yWE yZE zHE wE x_WITH_DIAERESIS xF xL y_WITH_DESCENDER zfHOOK
zfMIDDLE_HOOK zfTAIL xM y_WITH_TAIL xN y_WITH_DESCENDER zfHOOK zfLEFT_HOOK zfMIDDLE_HOOK zfTAIL xR
y_WITH_TICK xS y_WITH_DESCENDER wFITA wGHE z_WITH_DESCENDER zgMIDDLE_HOOK zgSTROKE zm_AND_HOOK
zgUPTURN xJE wHA y_WITH_DESCENDER zfHOOK zfSTROKE yRD_SIGN xWE wI x_WITH_DIAERESIS zeGRAVE zeMACRON
xE y_WITH_BREVE zfGRAVE xO yTA zIFIED_A zgBIG_YUS zgCLOSED_LITTLE_YUS zgE zgLITTLE_YUS zgYAT xZHITSA
ze_WITH_DOUBLE_GRAVE_ACCENT wJE wKA y_WITH_DESCENDER zfHOOK zfSTROKE zfVERTICAL_STROKE
xHAKASSIAN_CHE xJE xOMI_DE zdJE zdZJE zcLJE zcNJE zcSJE zcTJE zcZJE yPPA xSI wLHA xITTLE_YUS xJE
xONG-LEGGED_DE wMONOCULAR_O zbGRAPH_UK wNARROW_O xEUTRAL_YER xJE wO x_WITH_DIAERESIS xMEGA
zc_WITH_TITLO xT wPALOCHKA xE y_WITH_DESCENDER zfMIDDLE_HOOK xSI wQA wREVERSED_DZE zgTSE zgYU zgZE
xHA xOUND_OMEGA zcED_VE wSCHWA zc_WITH_DIAERESIS xEMISOFT_SIGN xHA yCHA yHA zb_WITH_DESCENDER yORT_I
ze_WITH_TAIL zdU yWE xOFT_DE zcEL zdM zcSIGN xTRAIGHT_U zh_WITH_STROKE wTALL_HARD_SIGN zcTE zcYAT
xCHE xE y_WITH_DESCENDER zfMIDDLE_HOOK xHREE-LEGGED_TE xSE yHE ySE yWE xWE wU x_WITH_DIAERESIS
zfOUBLE_ACUTE zeMACRON xK yRAINIAN_IE xNBLENDED_UK wVE wWE xIDE_ES wYA yE yT xERU zb_WITH_BACK_YER
zhDIAERESIS xI xN xU wZE y_WITH_DESCENDER zgIAERESIS yMLYA xHE z_WITH_BREVE zgDESCENDER zhIAERESIS
yWE qIGATURE_A_IE yEN_GHE yTE_TSE jTHOUSANDS_SIGN"

def namesWithD : String := "
aDAGGER g_KNIFE hWITH_LEFT_GUARD mRIGHT_GUARD cLET_SYMBOL cNCER dGO cRK_SHADE gUNGLASSES cSH_SYMBOL
fWITH_LEFT_UPTURN eED_LOW_LINE hOVERLINE hTRIANGLE-HEADED_RIGHTWARDS_ARROW cTA_LINK_ESCAPE bC1 c2 c3
c4 cS bEAF_PERSON cCIDUOUS_TREE eMAL_EXPONENT_SYMBOL iSEPARATOR_KEY_SYMBOL dREASE_FONT_SIZE_SYMBOL
cER cGREE_CELSIUS hFAHRENHEIT hSIGN cL dETE dIVERY_TRUCK dTA_EQUAL_TO
cNTISTRY_SYMBOL_LIGHT_DOWN_AND_HORIZONTAL zr_WITH_CIRCLE zxTRIANGLE zxWAVE xUP_AND_HORIZONTAL
zp_WITH_CIRCLE zvTRIANGLE zvWAVE xVERTICAL_AND_BOTTOM_LEFT zsRIGHT zlTOP_LEFT zpRIGHT zlWAVE
zhWITH_CIRCLE zmTRIANGLE cPARTMENT_STORE cRELICT_HOUSE_BUILDING cSCENDING_NODE
dERET_CAPITAL_LETTER_AY xBEE xCHEE xDEE xEF yL yM yN zG yR yS zH yTH yW xGAY xH xJEE xKAY xLONG_A
zeH zdE zdI zdO zeO xOI yW xPEE xSHORT_A zfH zeE zeI zeO zfO xTEE yHEE xVEE xWU xYEE xZEE yHEE
iSMALL_LETTER_AY vBEE vCHEE vDEE vEF wL wM wN xG wR wS xH wTH wW vGAY vH vJEE vKAY vLONG_A zcH zbE
zbI zbO zcO vOI wW vPEE vSHORT_A zdH zcE zcI zcO zdO vTEE wHEE vVEE vWU vYEE vZEE wHEE fT g_ISLAND
dKTOP_COMPUTER iWINDOW cVANAGARI_ABBREVIATION_SIGN mCUTE_ACCENT lCARET lDANDA mIGIT_EIGHT rFIVE sOUR
rNINE rONE rSEVEN sIX rTHREE sWO rZERO mOUBLE_DANDA lGAP_FILLER mRAVE_ACCENT lHEADSTROKE lJAIN_OM
lLETTER_A tA tI tU tW tY sBA tBA tHA sCA uNDRA_A zE zO tHA sDA tDA uDA vHA uHA tHA sE sFA sGA tGA
tHA uHA tLOTTAL_STOP sHA tEAVY_YA sI tI sJA tHA tJA sKA tHA uHA sLA tLA uLA sMA uRWARI_DDA sNA tGA
tNA uNA tYA sO tE tOE sPA tHA sQA sRA tHA tRA sSA tHA uORT_A yE yO tSA sTA tHA tTA uHA sU tE tU uE
sVA tOCALIC_L zcL zbR zcR sYA tYA sZA tHA lOM lSIGN_ANUSVARA rVAGRAHA qCANDRABINDU zc_AVAGRAHA
zdTHREE zeWO zdVIRAMA qDOUBLE_CANDRABINDU_VIRAMA qHIGH_SPACING_DOT qINVERTED_CANDRABINDU qNUKTA
qPUSHPIKA qSIDDHAM rPACING_CANDRABINDU qVIRAMA sSARGA mTRESS_SIGN_ANUDATTA xUDATTA lVOWEL_SIGN_AA xI
xU xW xY wCANDRA_E zeLONG_E zeO wE wI xI wO xE xOE wPRISHTHAMATRA_E wSHORT_E zdO wU xE xU yE
wVOCALIC_L zgL zfR zgR dICE_CONTROL_FOUR pONE pSTRING pTHREE qWO bIAERESIS dMETER_SIGN eOND_OPERATOR
iSHAPE_WITH_A_DOT_INSIDE iTARGET iWITH_BOTTOM_HALF_BLACK nLEFT_HALF_BLACK nRIGHT_HALF_BLACK
nTOP_HALF_BLACK cE_FACE-1 j2 j3 j4 j5 j6 dSEL_LOCOMOTIVE cFFERENCE_BETWEEN cGIT_EIGHT l_COMMA
mFULL_STOP gFIVE k_COMMA lFULL_STOP hOUR k_COMMA lFULL_STOP gNINE k_COMMA lFULL_STOP gONE j_COMMA
kFULL_STOP gSEVEN l_COMMA mFULL_STOP hIX j_COMMA kFULL_STOP gTHREE l_COMMA mFULL_STOP hWO j_COMMA
kFULL_STOP gZERO k_COMMA lFULL_STOP dRAM_FOR_EARTH qLY_HEAVEN uUMAN lGREATER_YANG uIN
lHEAVENLY_EARTH mUMAN_EARTH lLESSER_YANG tIN cMENSION_ORIGIN cNGBAT_CIRCLED_SANS-SERIF_DIGIT_EIGHT
ziFIVE zjOUR ziNINE ziONE ziSEVEN zjIX ziTHREE zjWO ziZERO zcNUMBER_TEN
iNEGATIVE_CIRCLED_DIGIT_EIGHT zgFIVE zhOUR zgNINE zgONE zgSEVEN zhIX zgTHREE zhWO zNUMBER_TEN
zSANS-SERIF_DIGIT_EIGHT zrFIVE zsOUR zrNINE zrONE zrSEVEN zsIX zrTHREE zsWO zrZERO zlNUMBER_TEN
cRECT_CURRENT_SYMBOL_FORM_TWO hHIT cSABLED_CAR ePPOINTED_BUT_RELIEVED_FACE nFACE
dCONTINUOUS_UNDERLINE_SYMBOL dGUISED_FACE cTTO_MARK cVES_AKURU_DIGIT_EIGHT sFIVE tOUR sNINE sONE
sSEVEN tIX sTHREE tWO sZERO nOUBLE_DANDA mEND_OF_TEXT_MARK mGAP_FILLER mINITIAL_RA mLETTER_A uA tBA
uHA tCA uHA tDA uDA vHA uHA tE tGA uHA tHA tI uI tJA tKA uHA tLA uLA tMA tNA uGA uNA uYA tO tPA uHA
tRA tSA uHA uSA tTA uHA uTA tU uU tVA tYA uYA tZA mMEDIAL_RA tYA mPREFIXED_NASAL_SIGN mSIGN_ANUSVARA
rCANDRABINDU rHALANTA rNUKTA mVIRAMA nOWEL_SIGN_AA yI xE xI yI xO xU yU dIDES eNG_MASK eSION_SIGN
kLASH jTIMES dORCE_SYMBOL cYA_LAMP cZZY_FACE gSYMBOL bLE bNA_DOUBLE_HELIX bO_NOT_LITTER_SYMBOL
cCUMENT i_WITH_PICTURE oTEXT s_AND_PICTURE cDO cES_NOT_CONTAIN_AS_MEMBER uNORMAL_SUBGROUP
zk_OR_EQUAL jDIVIDE p_WITH_REVERSED_NEGATION_SLASH jFORCE jPRECEDE q_OR_EQUAL lOVE jSUCCEED
q_OR_EQUAL cG d_FACE dRA_ABBREVIATION_SIGN gLETTER_A oA oI oU nBA oHA nCA oHA nDA oDA pHA oHA nE nGA
oHA nHA nI oI nJA oHA nKA oHA nLA nMA nNA oGA oNA oYA nO nPA oHA nRA oRA nSA oHA oSA nTA oHA oTA pHA
nU oU nVA nYA gSIGN_ANUSVARA lNUKTA lVIRAMA nSARGA gVOWEL_SIGN_AA sI sU rE rI sI rO rU sU rVOCALIC_R
zbR cLLAR_SIGN dPHIN cMINO_TILE_HORIZONTAL_BACK w-00-00 zc1 zc2 zc3 zc4 zc5 zc6 y1-00 zc1 zc2 zc3
zc4 zc5 zc6 y2-00 zc1 zc2 zc3 zc4 zc5 zc6 y3-00 zc1 zc2 zc3 zc4 zc5 zc6 y4-00 zc1 zc2 zc3 zc4 zc5
zc6 y5-00 zc1 zc2 zc3 zc4 zc5 zc6 y6-00 zc1 zc2 zc3 zc4 zc5 zc6 mVERTICAL_BACK u-00-00 z1 z2 z3 z4
z5 z6 w1-00 z1 z2 z3 z4 z5 z6 w2-00 z1 z2 z3 z4 z5 z6 w3-00 z1 z2 z3 z4 z5 z6 w4-00 z1 z2 z3 z4 z5
z6 w5-00 z1 z2 z3 z4 z5 z6 w6-00 z1 z2 z3 z4 z5 z6 cNG_SIGN cOR cT_ABOVE eMINUS eOPERATOR ePLUS
dTED_CIRCLE iROSS hFENCE hLINE_FACE hOBELOS hRIGHT-POINTING_ANGLE hSOLIDUS iQUARE
hTRANSPOSITION_MARKER cUBLE_ACUTE_ACCENT hCIRCLED_DIGIT_EIGHT vFIVE wOUR vNINE vONE vSEVEN wIX
vTHREE wWO pNUMBER_TEN iOLON_EQUAL iURLY_LOOP hDAGGER iOWN_TACK hEXCLAMATION_MARK
hHIGH-REVERSED-9_QUOTATION_MARK iYPHEN hINTEGRAL lRSECTION hLEFT_ARC_GREATER-THAN_BRACKET
iOGICAL_AND pOR jW_LINE k-9_QUOTATION_MARK lREVERSED-9_QUOTATION_MARK hNESTED_GREATER-THAN
oLESS-THAN x_WITH_UNDERBAR hOBLIQUE_HYPHEN hPLUS iRECEDES jIME m_QUOTATION_MARK hQUESTION_MARK
hRIGHT_ARC_LESS-THAN_BRACKET hSOLIDUS_OPERATOR iQUARE_INTERSECTION oUNION iTACKED_COMMA
jROKE_NOT_SIGN iUBSET jCCEEDS jPERSET jSPENSION_MARK hUNION iP_TACK hVERTICAL_BAR
t_DOUBLE_LEFT_TURNSTILE zcRIGHT_TURNSTILE uLEFT_TURNSTILE qLINE hWAVY_OVERLINE g-ENDED_MULTIMAP
hLINE_EQUAL_TO_OR_GREATER-THAN yLESS-THAN mSLANTED_EQUAL_TO_OR_GREATER-THAN zhLESS-THAN
uGREATER-THAN_OR_EQUAL_TO uLESS-THAN_OR_EQUAL_TO hSTRUCK_CAPITAL_C wGAMMA wH wN wP xI wQ wR wZ
oITALIC_CAPITAL_D vSMALL_D zcE zcI zcJ oN-ARY_SUMMATION oSMALL_GAMMA uPI gD_FEMALE_SIGN iMALE_SIGN
iSYMBOL dGHNUT cVE_OF_PEACE cWN_ARROWHEAD fFISH_TAIL fRIGHT_DIAGONAL_ELLIPSIS fTACK
j_WITH_CIRCLE_BELOW e-POINTING_RED_TRIANGLE oSMALL_RED_TRIANGLE oTRIANGLE_WITH_LEFT_HALF_BLACK
zdRIGHT_HALF_BLACK eWARD_FACING_HOOK u_WITH_DOT qNOTCHED_HOOK zd_WITH_DOT iS_ANCORA lRROW
p_AND_RIGHT_ONE_EIGHTH_BLOCK qFROM_BAR qLEFTWARDS_OF_UPWARDS_ARROW qTO_BAR qWITH_CORNER_LEFTWARDS
vDOUBLE_STROKE vEQUILATERAL_ARROWHEAD vHORIZONTAL_STROKE vLARGE_TRIANGLE_ARROWHEAD
vMEDIUM_TRIANGLE_ARROWHEAD vNOTCHED_TAIL vSMALL_EQUILATERAL_ARROWHEAD zcTRIANGLE_ARROWHEAD
vTIP_LEFTWARDS zRIGHTWARDS kBLACK_ARROW qCIRCLED_WHITE_ARROW kCOMPRESSED_ARROW kDASHED_ARROW
lOUBLE_ARROW kFINGER-POST_ARROW kHARPOON_WITH_BARB_LEFT_BESIDE_DOWNWARDS_HARPOON_WITH_BARB_RIGHT
zpUPWARDS_HARPOON_WITH_BARB_RIGHT ziFROM_BAR ziTO_BAR zhWARDS zdRIGHT_FROM_BAR zjTO_BAR ziWARDS
lEAVY_ARROW qCOMPRESSED_ARROW kPAIRED_ARROWS kQUADRUPLE_ARROW kROCKET kSANS-SERIF_ARROW
lQUARED_ARROW kTRIANGLE_ARROWHEAD s-HEADED_ARROW zg_LEFTWARDS_OF_UPWARDS_TRIANGLE-HEADED_ARROW
zhTO_BAR zhWITH_BOLD_SHAFT zmDOUBLE_HORIZONTAL_STROKE zmHEAVY_SHAFT zmLONG_TIP_LEFTWARDS
zvRIGHTWARDS zmMEDIUM_SHAFT zmNARROW_SHAFT zmVERY_HEAVY_SHAFT zbDASHED_ARROW zbPAIRED_ARROWS
zbZIGZAG_ARROW nPLE_ARROW lWO_HEADED_ARROW n-HEADED_ARROW_WITH_TRIANGLE_ARROWHEADS kWHITE_ARROW
v_WITHIN_TRIANGLE_ARROWHEAD kZIGZAG_ARROW bRACHMA_SIGN dFTING_POINT_RIGHTWARDS_ARROW dGON g_FACE
cESS cIVE_SLOW_SIGN cOMEDARY_CAMEL dOLING_FACE dP_OF_BLOOD eLET cUM_WITH_DRUMSTICKS bUCK cMPLING
cPLOYAN_AFFIX_ATTACHED_E_HOOK yI_HOOK yLEFT-TO-RIGHT_SECANT ySECANT yTAIL zbNGENT zg_HOOK
pHIGH_ACUTE uCIRCLE uDOT uGRAVE uLINE vONG_GRAVE uTIGHT_ACUTE uVERTICAL zd_SECANT uWAVE
pLEFT_HORIZONTAL_SECANT qOW_ACUTE uRROW tCIRCLE tDOT tGRAVE tLINE uONG_GRAVE tTIGHT_ACUTE tVERTICAL
zc_SECANT tWAVE pMID_HORIZONTAL_SECANT tVERTICAL_SECANT pRIGHT_HORIZONTAL_SECANT jDOUBLE_MARK
jLETTER_A rOU qB qD r_S rH qE rE rU qF r_N qG r_R_S qH rL qI rE qJ r_M t_S sN t_S sS t_WITH_DOT
sWITH_DOT zbS_INSIDE_AND_ABOVE qK r_M sR_S rK qL rH rONG_I vU qM r_N t_S sS sWITH_DOT qN r_M t_S sS
sWITH_DOT rASAL_A wI wO wU qO rA rOH rU rW qP r_N rERNIN_AM yN qR r_S rH rOMANIAN_I zU qS r_J t_S sK
t_R sM sN sP t_R sS sT t_R sWITH_DOT zb_BELOW rHORT_I rLOAN_AN wDH wEE xH xN wJ wON xW wU qT r_R_S
sS rH qU r_N rH rI qV rOCALIC_M qW r_R rA rEI rH rI rO sW qX rW qYE jPUNCTUATION_CHINOOK_FULL_STOP
jSIGN_O_WITH_CROSS jTHICK_LETTER_SELECTOR bVD"

def namesWithE : String := "
aE-MAIL_SYMBOL bAGLE cR d_OF_MAIZE hRICE eWITH_HEARING_AID dTH f_GLOBE_AMERICAS nSIA-AUSTRALIA
mEUROPE-AFRICA hROUND cST_SYRIAC_CROSS bDITORIAL_CORONIS bGG cYPTIAN_HIEROGLYPH_A001 x2 x3 x4 x5 yA
x6 yA yB x7 x8 x9 w10 x1 x2 x3 x4 yA x5 x6 x7 yA x8 x9 w20 x1 x2 x3 x4 x5 x6 x7 x8 x9 w30 x1 x2 yA
x3 x4 x5 x6 x7 x8 x9 w40 yA x1 x2 yA x3 yA x4 x5 yA x6 x7 x8 x9 w50 x1 x2 x3 x4 x5 x6 x7 x8 x9 w60
x1 x2 x3 x4 x5 x6 x7 x8 x9 w70 vA001 y2 y3 y4 y5 y6 y7 zA zB y8 y9 x10 y1 y2 y3 y4 y5 y6 y7 y8 y9
x20 y1 y2 y3 y4 y5 y6 y7 y8 y9 x30 y1 y2 uB001 x2 x3 x4 x5 yA x6 x7 x8 x9 vEGIN_SEGMENT uC001 x2 yA
yB yC x3 x4 x5 x6 x7 x8 x9 w10 yA x1 x2 x3 x4 x5 x6 x7 x8 x9 w20 x1 x2 x3 x4 uD001 x2 x3 x4 x5 x6 x7
x8 yA x9 w10 x1 x2 x3 x4 x5 x6 x7 x8 x9 w20 x1 x2 x3 x4 x5 x6 x7 yA x8 x9 w30 x1 yA x2 x3 x4 yA x5
x6 x7 x8 x9 w40 x1 x2 x3 x4 x5 x6 yA x7 x8 yA x9 w50 yA yB yC yD yE yF yG yH yI x1 x2 yA x3 x4 yA x5
x6 x7 x8 x9 w60 x1 x2 x3 x4 x5 x6 x7 yA yB yC yD yE yF yG yH uE001 x2 x3 x4 x5 x6 x7 x8 yA x9 yA w10
x1 x2 x3 x4 x5 x6 yA x7 yA x8 x9 w20 yA x1 x2 x3 x4 x5 x6 x7 x8 yA x9 w30 x1 x2 x3 x4 yA x6 x7 x8
vND_SEGMENT uF001 yA x2 x3 x4 x5 x6 x7 x8 x9 w10 x1 x2 x3 yA x4 x5 x6 x7 x8 x9 w20 x1 yA x2 x3 x4 x5
x6 x7 x8 x9 w30 x1 yA x2 x3 x4 x5 x6 x7 yA x8 yA x9 w40 x1 x2 x3 x4 x5 yA x6 yA x7 yA x8 x9 w50 x1
yA yB yC x2 x3 uG001 x2 x3 x4 x5 x6 yA x7 yA yB x8 x9 w10 x1 yA x2 x3 x4 x5 x6 x7 x8 x9 w20 yA x1 x2
x3 x4 x5 x6 yA x7 x8 x9 w30 x1 x2 x3 x4 x5 x6 yA x7 yA x8 x9 w40 x1 x2 x3 yA x4 x5 yA x6 x7 x8 x9
w50 x1 x2 x3 x4 uH001 x2 x3 x4 x5 x6 yA x7 x8 vORIZONTAL_JOINER uI001 x2 x3 x4 x5 yA x6 x7 x8 x9 yA
w10 yA x1 yA x2 x3 x4 x5 vNSERT_AT_BOTTOM_END zmSTART zfTOP_END zjSTART uK001 x2 x3 x4 x5 x6 x7 x8
uL001 x2 yA x3 x4 x5 x6 yA x7 x8 uM001 yA yB x2 x3 yA x4 x5 x6 x7 x8 x9 w10 yA x1 x2 yA yB yC yD yE
yF yG yH x3 x4 x5 yA x6 yA x7 yA x8 x9 w20 x1 x2 yA x3 x4 yA x5 x6 x7 x8 yA x9 w30 x1 yA x2 x3 yA yB
x4 x5 x6 x7 x8 x9 w40 yA x1 x2 x3 x4 uN001 x2 x3 x4 x5 x6 x7 x8 x9 w10 x1 x2 x3 x4 x5 x6 x7 x8 yA yB
x9 w20 x1 x2 x3 x4 x5 yA x6 x7 x8 x9 w30 x1 x2 x3 yA x4 yA x5 yA x6 x7 yA x8 x9 w40 x1 x2 vL001 y2
y3 y4 y5 zA y6 y7 y8 y9 x10 y1 y2 y3 y4 y5 y6 y7 zA y8 y9 x20 vU001 y2 y3 y4 y5 y6 y7 y8 y9 x10 zA
y1 zA y2 y3 y4 y5 y6 y7 y8 zA y9 x20 y1 y2 zA uO001 yA x2 x3 x4 x5 yA x6 yA yB yC yD yE yF x7 x8 x9
w10 yA yB yC x1 x2 x3 x4 x5 x6 x7 x8 x9 yA w20 yA x1 x2 x3 x4 yA x5 yA x6 x7 x8 x9 yA w30 yA x1 x2
x3 yA x4 x5 x6 yA yB yC yD x7 x8 x9 w40 x1 x2 x3 x4 x5 x6 x7 x8 x9 w50 yA yB x1 vVERLAY_MIDDLE uP001
yA x2 x3 yA x4 x5 x6 x7 x8 x9 w10 x1 uQ001 x2 x3 x4 x5 x6 x7 uR001 x2 yA x3 yA yB x4 x5 x6 x7 x8 x9
w10 yA x1 x2 x3 x4 x5 x6 yA x7 x8 x9 w20 x1 x2 x3 x4 x5 x6 x7 x8 x9 uS001 x2 yA x3 x4 x5 x6 yA x7 x8
x9 w10 x1 x2 x3 x4 yA yB x5 x6 x7 yA x8 x9 w20 x1 x2 x3 x4 x5 x6 yA yB x7 x8 x9 w30 x1 x2 x3 x4 x5
yA x6 x7 x8 x9 w40 x1 x2 x3 x4 x5 x6 uT001 x2 x3 yA x4 x5 x6 x7 yA x8 yA x9 yA w10 x1 yA x2 x3 x4 x5
x6 yA x7 x8 x9 w20 x1 x2 x3 x4 x5 x6 x7 x8 x9 w30 x1 x2 yA x3 yA x4 x5 x6 uU001 x2 x3 x4 x5 x6 yA yB
x7 x8 x9 w10 x1 x2 x3 x4 x5 x6 x7 x8 x9 w20 x1 x2 x3 yA x4 x5 x6 x7 x8 x9 yA w30 x1 x2 yA x3 x4 x5
x6 x7 x8 x9 w40 x1 x2 uV001 yA yB yC yD yE yF yG yH yI x2 yA x3 x4 x5 x6 x7 yA yB x8 x9 w10 x1 yA yB
yC x2 yA yB x3 x4 x5 x6 x7 x8 x9 w20 yA yB yC yD yE yF yG yH yI yJ yK yL x1 x2 x3 yA x4 x5 x6 x7 x8
yA x9 yA w30 yA x1 yA x2 x3 yA x4 x5 x6 x7 yA x8 x9 w40 yA vERTICAL_JOINER uW001 x2 x3 yA x4 x5 x6
x7 x8 x9 yA w10 yA x1 x2 x3 x4 yA x5 x6 x7 yA x8 yA x9 w20 x1 x2 x3 x4 yA x5 uX001 x2 x3 x4 yA yB x5
x6 yA x7 x8 yA uY001 yA x2 x3 x4 x5 x6 x7 x8 uZ001 x2 yA yB yC yD x3 yA yB x4 yA x5 yA x6 x7 x8 x9
w10 x1 x2 x3 x4 x5 yA yB yC yD yE yF yG yH yI x6 yA yB yC yD yE yF yG yH
bIGHT_PETALLED_OUTLINED_BLACK_FLORETTE hOINTED_BLACK_STAR oPINWHEEL_STAR oRECTILINEAR_BLACK_STAR
gSPOKED_ASTERISK gTEARDROP-SPOKED_PROPELLER_ASTERISK fH_NOTE bJECT_SYMBOL bLBASAN_LETTER_A pBE pCE
qHE pDE qHE pE qI pFE pGE qHAMMA rE qJE pHE pI pJE pKE qHE pLE qLE pME pNA qDE qE qJE pO pPE pQE pRE
qRE pSE qHE pTE qHE pU pVE pXE pY pZE qHE cECTRIC_ARROW jLIGHT_BULB jPLUG jTORCH iAL_INTERSECTION
dMENT_OF k_OPENING_DOWNWARDS tUPWARDS lWITH_DOT_ABOVE qLONG_HORIZONTAL_STROKE qOVERBAR
qTWO_HORIZONTAL_STROKES qUNDERBAR qVERTICAL_BAR_AT_END_OF_HORIZONTAL_STROKE dPHANT dVATOR cF
cYMAIC_LETTER_ALEPH qYIN pBETH pDALETH pGIMEL pHE rTH pKAPH pLAMEDH pMEM pNUN pPE pQOPH pRESH pSADHE
rMEKH qHIN pTAW qETH pWAW pYODH pZAYIN jIGATURE_ZAYIN-YODH bM_DASH dQUAD dSPACE cOJI_COMPONENT_BALD
qCURLY_HAIR qRED_HAIR qWHITE_HAIR gMODIFIER_FITZPATRICK_TYPE-1-2 zh3 zh4 zh5 zh6 cPHASIS_SYMBOL
dTY_DOCUMENT gNEST hOTE k_PAD nGE gPAGE kS gSET j_WITH_LEFT_ARROW_ABOVE pOVERBAR pRIGHT_ARROW_ABOVE
pSMALL_CIRCLE_ABOVE bN_DASH dQUAD dSPACE cD_OF_GUARDED_AREA hLINE hMEDIUM hPROOF kTECTED_AREA
hSELECTED_AREA hTEXT iRANSMISSION t_BLOCK eWITH_LEFTWARDS_ARROW_ABOVE cQ dUIRY cTER_SYMBOL cVELOPE
i_WITH_DOWNWARDS_ARROW_ABOVE oLIGHTNING bOL cM cT bPA bQUAL_AND_PARALLEL_TO gTO_BY_DEFINITION
jOR_GREATER-THAN mLESS-THAN mPRECEDES mSUCCEEDS fS_COLON hSIGN l_ABOVE_LEFTWARDS_ARROW sPLUS_SIGN
sRIGHTWARDS_ARROW sTILDE_OPERATOR nND_SLANTED_PARALLEL zh_WITH_TILDE_ABOVE mWITH_BUMPY_ABOVE
rDOT_BELOW rINFINITY_BELOW rTWO_DOTS_ABOVE_AND_TWO_DOTS_BELOW hWITH_ASTERISK dIANGULAR_TO eVALENT_TO
lWITH_FOUR_DOTS_ABOVE bRASE_TO_THE_LEFT nRIGHT cIS_FORM_ONE kTWO cROR-BARRED_BLACK_CIRCLE tDIAMOND
tSQUARE nWHITE_CIRCLE tDIAMOND tSQUARE bSA cC dAPE cTIMATED_SYMBOL iS bTB cHIOPIC_COLON
lMBINING_GEMINATION_AND_VOWEL_LENGTH_MARK zfMARK tVOWEL_LENGTH_MARK mMA jDIGIT_EIGHT pFIVE qOUR
pNINE pONE pSEVEN qIX pTHREE qWO jFULL_STOP jNUMBER_EIGHTY qFIFTY rORTY qHUNDRED qNINETY qSEVENTY
rIXTY qTEN t_THOUSAND rHIRTY rWENTY jPARAGRAPH_SEPARATOR kREFACE_COLON jQUESTION_MARK jSECTION_MARK
lMICOLON kYLLABLE_BA uA tBA vA uE vE uI uO uU tE uE tI tO uA tU tWA uE vE uI sCA uA tCA vA uE vE uHA
wA vE wE vHA xA wE xE wI wO wU vI vO vU uI uO uU tE uE tHA vA uE vE uI uO vA uU uWA tI tO uA tU tWA
sDA uA tDA vA uE vE uHAA vE wE vI vO vU uI uO vA uU uWA tE uE tI tO uA tU tWA tZAA uE vE uI uO uU
sFA uA tE uE tI tO tU tWA uE vE uI tYA sGA uA tE uE tGA vA uE vE uI uO uU uWA wA vE wE vI tI
tLOTTAL_A zcA zbE zcE zbI zbO zcA zbU zbWA tO uA tU uRAGE_BWEE zcI zFWEE zcI zGWE zdE zcI zHHWA zKWE
zdE zcI zMWEE zcI zPWEE zcI zQWE zdE zcI tWA vA uE vE uI tYA vA uE vE uI uO uU sHA uA tE uE tHA vA
uE vE uI uO uU uWA vE wE vI uYA wA vE wE vI vO vU tI tO uA tU sJA uA tE uE tI tO uA tU tWA sKA uA tE
uE tI tO uA tU tWA vA uE vE uI tXA vA uE vE uI uO uU uWA wA vE wE vI tYA vA uE vE uI uO uU sLA uA tE
uE tI tO uA tU tWA sMA uA tE uE tI tO uA tU tWA uE vE uI tYA sNA uA tE uE tI tO uA tU tWA tYA vA uE
vE uI uO vA uU uWA sPA uA tE uE tHA vA vRYNGEAL_A zfA zeE zfE zeI zeO zeU uE vE uI uO vA uU uWA tI
tO uA tU tWA uE vE uI sQA uA tE uE tHA vA uE vE uI uO uU uWA wA vE wE vI tI tO uA tU tWA vA uE vE uI
tYA vA uE vE uI uO uU sRA uA tE uE tI tO uA tU tWA tYA sSA uA tE uBATBEIT_BWA zdFWA zdMWA zdPWA uE
tHA vA uE vE uI uO vA uU uWA tI tO uA tSA vA uE vE uI uO uU tU tWA tZA vA uE vE uI uO uU uWA sTA uA
tE uE tHA vA uE vE uI uO vA uU uWA tI tO uA tSA vA uE vE uI uO uU uWA tTHAA vE wE vI vO vU tU tWA
tZA vA uE vE uI uO vA uU sVA uA tE uE tI tO tU tWA sWA uA tE uE tI tO uA tU sXA uA tE uE tI tO uA tU
tWA vA uE vE uI tYA vA uE vE uI uO uU sYA uA tE uE tI tO uA tU sZA uA tE uE tHA vA uE vE uI uO uU
uWA tI tO uA tU tWA tZA vA uE vE uI uO uU jTONAL_MARK_CHIRET uDERET z-HIDET vIFAT uHIDET uKENAT vURT
uRIKRIK uSHORT_RIKRIK uYIZET jWORDSPACE cX bULER_CONSTANT cRO_SIGN e-CURRENCY_SIGN ePEAN_CASTLE
jPOST_OFFICE bVERGREEN_TREE bXCESS dLAMATION_MARK mQUESTION_MARK cPRESSIONLESS_FACE
cTENDED_ARABIC-INDIC_DIGIT_EIGHT zdFIVE zeOUR zdNINE zdONE zdSEVEN zeIX zdTHREE zeWO zdZERO
dRATERRESTRIAL_ALIEN eEMELY_HEAVY_FIVE_SPOKED_ASTERISK qGREEK_CROSS qSALTIRE rIX_SPOKED_ASTERISK
qWHITE_CIRCLE wSQUARE bYE dGLASSES dS"

def namesWithF : String := "
aFACE_HOLDING_BACK_TEARS fMASSAGE fPALM fSAVOURING_DELICIOUS_FOOD gCREAMING_IN_FEAR fTHROWING_A_KISS
fWITH_COLD_SWEAT mWBOY_HAT kDIAGONAL_MOUTH kFINGER_COVERING_CLOSED_LIPS kHEAD-BANDAGE
kLOOK_OF_TRIUMPH kMEDICAL_MASK lONOCLE kNO_GOOD_GESTURE kOK_GESTURE lNE_EYEBROW_RAISED
lPEN_EYES_AND_HAND_OVER_MOUTH pMOUTH u_AND_COLD_SWEAT vVOMITING kPARTY_HORN_AND_PARTY_HAT
lEEKING_EYE lLEADING_EYES kROLLING_EYES kSTUCK-OUT_TONGUE zb_AND_TIGHTLY-CLOSED_EYES zgWINKING_EYE
kTEARS_OF_JOY lHERMOMETER kUNEVEN_EYES_AND_WAVY_MOUTH jOUT_MOUTH dSIMILE_SIGN dTORY cIRY cLAFEL
dLEN_LEAF eING_DIAGONAL_CROSSING_NORTH_EAST_ARROW zbRISING_DIAGONAL rIN_WHITE_CIRCLE_IN_BLACK_SQUARE
cMILY cRSI_SYMBOL cTHER_CHRISTMAS cX_ICON eMACHINE bEARFUL_FACE dTHER cMALE_SIGN
dININE_ORDINAL_INDICATOR cNCER cRRIS_WHEEL eY bF bIELD_HOCKEY_STICK_AND_BALL cGURE_DASH hSPACE
cLE_CABINET fFOLDER fSEPARATOR dM_FRAMES fPROJECTOR cNITE_PART_INTEGRAL cRE e_ENGINE gXTINGUISHER
eCRACKER eWORK_SPARKLER iS dST_PLACE_MEDAL gQUARTER_MOON s_SYMBOL tWITH_FACE gSTRONG_ISOLATE cSH
e_CAKE_WITH_SWIRL_DESIGN eEYE eING_POLE_AND_FISH dTED_HAND_SIGN cVE_DOT_MARK jPUNCTUATION
bLAG_IN_HOLE dMINGO dT_SHOE eBREAD eNESS cEUR-DE-LIS dXED_BICEPS cOPPY_DISK dRAL_HEART dWER
g_PLAYING_CARDS iUNCTUATION_MARK cUSHED_FACE cY dING_DISC hENVELOPE hSAUCER bOG dGY cLDER cNDUE cOT
ePRINTS cR_ALL dCES dK_AND_KNIFE o_WITH_PLATE eED_PARAGRAPHOS eING dM_FEED dTUNE_COOKIE cUNTAIN
dR_BALLOON-SPOKED_ASTERISK fCLUB-SPOKED_ASTERISK gORNER_ARROWS_CIRCLING_ANTICLOCKWISE fDOT_MARK
jPUNCTUATION fLEAF_CLOVER fPOINTED_BLACK_STAR fTEARDROP-SPOKED_ASTERISK e-PER-EM_SPACE eTH_ROOT
cX_FACE bRACTION_NUMERATOR_ONE jSLASH dME_WITH_AN_X lPICTURE lTILES cEEZING_FACE dNCH_FRANC_SIGN
jIES cIED_SHRIMP cOG_FACE dNT-FACING_BABY_CHICK gTILTED_SHADOWED_WHITE_RIGHTWARDS_ARROW dWN
fING_FACE_WITH_OPEN_MOUTH bS cI bUEL_PUMP cLL_BLOCK fMOON_SYMBOL kWITH_FACE fOUTER_JOIN fSTOP
eWIDTH_AMPERSAND lPOSTROPHE lSTERISK kBROKEN_BAR kCENT_SIGN lIRCUMFLEX_ACCENT lOLON mMMA oERCIAL_AT
kDIGIT_EIGHT qFIVE rOUR qNINE qONE qSEVEN rIX qTHREE rWO qZERO lOLLAR_SIGN kEQUALS_SIGN
lXCLAMATION_MARK kFULL_STOP kGRAVE_ACCENT mEATER-THAN_SIGN kHYPHEN-MINUS kLATIN_CAPITAL_LETTER_A zgB
zgC zgD zgE zgF zgG zgH zgI zgJ zgK zgL zgM zgN zgO zgP zgQ zgR zgS zgT zgU zgV zgW zgX zgY zgZ
qSMALL_LETTER_A zeB zeC zeD zeE zeF zeG zeH zeI zeJ zeK zeL zeM zeN zeO zeP zeQ zeR zeS zeT zeU zeV
zeW zeX zeY zeZ lEFT_CURLY_BRACKET pPARENTHESIS pSQUARE_BRACKET pWHITE_PARENTHESIS mSS-THAN_SIGN
lOW_LINE kMACRON kNOT_SIGN lUMBER_SIGN kPERCENT_SIGN lLUS_SIGN lOUND_SIGN kQUESTION_MARK
mOTATION_MARK kREVERSE_SOLIDUS lIGHT_CURLY_BRACKET qPARENTHESIS qSQUARE_BRACKET qWHITE_PARENTHESIS
kSEMICOLON lOLIDUS kTILDE kVERTICAL_LINE kWON_SIGN kYEN_SIGN cNCTION_APPLICATION dERAL_URN cSE bVS1
d2 d3 d4"

def namesWithG : String := "
aGAME_DIE cRLIC bEAR e_WITH_HANDLES jOUT_HUB cM_STONE dINI cNIE cOMETRIC_PROPORTION jALLY_EQUAL_TO
rIVALENT_TO dRGIAN_CAPITAL_LETTER_AEN zN yBAN yCAN zHAR zbIN zIL yDON yEN yGAN zHAN yHAE zbR zE zIE
zOE yIN yJHAN zIL yKAN zHAR yLAS yMAN yNAR yON yPAR zHAR yQAR yRAE ySAN zHIN yTAN zbR yUN yVIN yWE
yXAN yYN yZEN zHAR jLETTER_AEN rIN rN qBAN qCAN rHAR sIN rIL qDON qELIFI rN qFI qGAN rHAN qHAE sR
tD_SIGN rE rIE rOE qIN qJHAN rIL qKAN rHAR qLABIAL_SIGN sS qMAN qNAR qON qPAR rHAR qQAR qRAE qSAN
rHIN qTAN sR rURNED_GAN qUN qVIN qWE qXAN qYN qZEN rHAR jMTAVRULI_CAPITAL_LETTER_AEN zjIN zjN ziBAN
ziCAN zjHAR zkIN zjIL ziDON ziELIFI zjN ziFI ziGAN zjHAN ziHAE zkR zlD_SIGN zjE zjIE zjOE ziIN
ziJHAN zjIL ziKAN zjHAR ziLABIAL_SIGN zkS ziMAN ziNAR ziON ziPAR zjHAR ziQAR ziRAE ziSAN zjHIN ziTAN
zkR zjURNED_GAN ziUN ziVIN ziWE ziXAN ziYN ziZEN zjHAR jPARAGRAPH_SEPARATOR jSMALL_LETTER_AEN xN
wBAN wCAN xHAR yIN xIL wDON wEN wGAN xHAN wHAE yR xE xIE xOE wIN wJHAN xIL wKAN xHAR wLAS wMAN wNAR
wON wPAR xHAR wQAR wRAE wSAN xHIN wTAN yR wUN wVIN wWE wXAN wYN wZEN xHAR cRMAN_PENNY_SIGN cTA_MARK
bHOST bIMEL_SYMBOL cRAFFE_FACE dL eS_SYMBOL bLAGOLITIC_CAPITAL_LETTER_AZU zbBIG_YUS zcUKY
zbCAUDATE_CHRIVI zcHRIVI zbDJERVI zcOBRO zcZELO zbFITA zcRITU zbGLAGOLI zbHERU zbI zcNITIAL_IZHE
zcOTATED_BIG_YUS zjSMALL_YUS zcZHE zeITSA zbKAKO zbLATINATE_MYSLITE zcJUDIJE zbMYSLITE zbNASHI zbONU
zcTU zbPE zcOKOJI zbRITSI zbSHA zdTA zfPIC zcLOVO zcMALL_YUS zk_WITH_TAIL zcPIDERY_HA zbTROKUTASTI_A
zcSI zcVRIDO zbUKU zbVEDE zbYATI zcERI zeU zdSTU zcO zcU zbZEMLJA zcHIVETE lSMALL_LETTER_AZU
yBIG_YUS zUKY yCAUDATE_CHRIVI zHRIVI yDJERVI zOBRO zZELO yFITA zRITU yGLAGOLI yHERU yI zNITIAL_IZHE
zOTATED_BIG_YUS zhSMALL_YUS zZHE zcITSA yKAKO yLATINATE_MYSLITE zJUDIJE yMYSLITE yNASHI yONU zTU yPE
zOKOJI yRITSI ySHA zbTA zdPIC zLOVO zMALL_YUS zi_WITH_TAIL zPIDERY_HA yTROKUTASTI_A zSI zVRIDO yUKU
yVEDE yYATI zERI zcU zbSTU zO zU yZEMLJA zHIVETE dSS_OF_MILK cEICH_STARK cOBE_WITH_MERIDIANS dVES
dWING_STAR bOAL_NET dT cGGLES cLFER cRILLA cTHIC_LETTER_AHSA pIHVUS oBAIRKAN oDAGS oEIS oFAIHU oGIBA
oHAGL pWAIR oIGGWS pUJA oJER oKUSMA oLAGUS oMANNA oNAUTHS pINE_HUNDRED sTY oOTHAL oPAIRTHRA
oQAIRTHRA oRAIDA oSAUIL oTEIWS pHIUTH oURUS oWINJA bRADUATION_CAP dNTHA_AU_LENGTH_MARK iLETTER_A qA
qI qU pBA qHA pCA qHA pDA qDA rHA qHA pEE pGA qHA pHA pI qI pJA qHA pKA qHA pLA qLA pMA pNA qGA qNA
qYA pOO pPA qHA pRA pSA qHA qSA pTA qHA qTA rHA pU qU pVA qEDIC_ANUSVARA vDOUBLE_ANUSVARA qOCALIC_L
yL xR yR pYA iOM iSIGN_ANUSVARA oVAGRAHA nCANDRABINDU oOMBINING_ANUSVARA_ABOVE nNUKTA nPLUTA nVIRAMA
pSARGA iVOWEL_SIGN_AA uI uU tEE tI uI tOO tU uU tVOCALIC_L zdL zcR zdR dPES dVE_ACCENT
cEATER-THAN_ABOVE_DOUBLE-LINE_EQUAL_ABOVE_LESS-THAN tLESS-THAN_ABOVE_DOUBLE-LINE_EQUAL
tRIGHTWARDS_ARROW tSIMILAR_ABOVE_LESS-THAN zcOR_EQUAL
uLANTED_EQUAL_ABOVE_LESS-THAN_ABOVE_SLANTED_EQUAL oND_NOT_APPROXIMATE rSINGLE-LINE_NOT_EQUAL_TO
nBESIDE_LESS-THAN oUT_NOT_EQUAL_TO yIVALENT_TO nCLOSED_BY_CURVE zd_ABOVE_SLANTED_EQUAL
nEQUAL_TO_OR_LESS-THAN nOR_APPROXIMATE qEQUAL_TO tIVALENT_TO qLESS-THAN qSLANTED_EQUAL_TO
zh_WITH_DOT_ABOVE zw_LEFT zrINSIDE oVER_EQUAL_TO rLAPPING_LESS-THAN nSIGN nWITH_CIRCLE_INSIDE sDOT
sQUESTION_MARK_ABOVE dEK_ACROPHONIC_ATTIC_FIFTY zd_STATERS zeTALENTS zfHOUSAND zm_STATERS zVE
zc_HUNDRED zk_STATERS zlTALENTS zdSTATERS zdTALENTS zeHOUSAND zl_TALENTS xONE_DRACHMA zcHALF
zdUNDRED_STATERS zkTALENTS zcQUARTER zcTHOUSAND_STATERS zlTALENTS xTEN_MNAS zcSTATERS zcTALENTS
zdHOUSAND_STATERS rCARYSTIAN_FIVE_HUNDRED sYRENAIC_TWO_DRACHMAS rDELPHIC_FIVE_MNAS
rEPIDAUREAN_FIVE_HUNDRED zdTWO zg_DRACHMAS rHERAEUM_ONE_PLETHRON uMIONIAN_FIFTY zdONE zdTEN
rMESSENIAN_TEN rNAXIAN_FIVE_HUNDRED rSTRATIAN_FIFTY_MNAS rTHESPIAN_FIFTY zdVE_HUNDRED zgTHOUSAND
zbONE ze_HUNDRED zfTHOUSAND zbTEN zcHIRTY zdREE_HUNDRED zcWO sROEZENIAN_FIFTY zi_ALTERNATE_FORM zfVE
zh_HUNDRED zdTEN zg_ALTERNATE_FORM hNO_TELEIA hROURA_SIGN iTABE_SIGN gBETA_SYMBOL
gCAPITAL_DOTTED_LUNATE_SIGMA_SYMBOL oKAI_SYMBOL oLETTER_ALPHA zb_WITH_DASIA zm_AND_OXIA
zv_AND_PROSGEGRAMMENI zrPERISPOMENI zzd_AND_PROSGEGRAMMENI zsROSGEGRAMMENI zrVARIA
zw_AND_PROSGEGRAMMENI zhMACRON zhOXIA zhPROSGEGRAMMENI ziSILI zm_AND_OXIA zv_AND_PROSGEGRAMMENI
zrPERISPOMENI zzd_AND_PROSGEGRAMMENI zsROSGEGRAMMENI zrVARIA zw_AND_PROSGEGRAMMENI zhTONOS zhVARIA
ziRACHY wRCHAIC_SAMPI vBETA vCHI vDELTA vEPSILON zd_WITH_DASIA zo_AND_OXIA ztVARIA zjOXIA zjPSILI
zo_AND_OXIA ztVARIA zjTONOS zjVARIA wTA y_WITH_DASIA zk_AND_OXIA zt_AND_PROSGEGRAMMENI zpPERISPOMENI
zzb_AND_PROSGEGRAMMENI zqROSGEGRAMMENI zpVARIA zu_AND_PROSGEGRAMMENI zfOXIA zfPROSGEGRAMMENI zgSILI
zk_AND_OXIA zt_AND_PROSGEGRAMMENI zpPERISPOMENI zzb_AND_PROSGEGRAMMENI zqROSGEGRAMMENI zpVARIA
zu_AND_PROSGEGRAMMENI zfTONOS zfVARIA vGAMMA vHETA vIOTA z_WITH_DASIA zl_AND_OXIA zqPERISPOMENI
zqVARIA zhIALYTIKA zgMACRON zgOXIA zgPSILI zl_AND_OXIA zqPERISPOMENI zqVARIA zgTONOS zgVARIA zhRACHY
vKAPPA vLAMDA vMU vNU vOMEGA zb_WITH_DASIA zm_AND_OXIA zv_AND_PROSGEGRAMMENI zrPERISPOMENI
zzd_AND_PROSGEGRAMMENI zsROSGEGRAMMENI zrVARIA zw_AND_PROSGEGRAMMENI zhOXIA zhPROSGEGRAMMENI ziSILI
zm_AND_OXIA zv_AND_PROSGEGRAMMENI zrPERISPOMENI zzd_AND_PROSGEGRAMMENI zsROSGEGRAMMENI zrVARIA
zw_AND_PROSGEGRAMMENI zhTONOS zhVARIA xICRON zd_WITH_DASIA zo_AND_OXIA ztVARIA zjOXIA zjPSILI
zo_AND_OXIA ztVARIA zjTONOS zjVARIA vPAMPHYLIAN_DIGAMMA wHI wI wSI vRHO y_WITH_DASIA vSAN wHO wIGMA
vTAU wHETA vUPSILON zd_WITH_DASIA zo_AND_OXIA ztPERISPOMENI ztVARIA zkIALYTIKA zjMACRON zjOXIA
zjTONOS zjVARIA zkRACHY vXI vYOT vZETA pUNATE_SIGMA_SYMBOL oREVERSED_DOTTED_LUNATE_SIGMA_SYMBOL
xLUNATE_SIGMA_SYMBOL oTHETA_SYMBOL gDASIA l_AND_OXIA qPERISPOMENI qVARIA hIALYTIKA_AND_OXIA
uPERISPOMENI uVARIA qTONOS hRACHMA_SIGN gFIVE_OBOLS_SIGN hOUR_OBOLS_SIGN gGRAMMA_SIGN
gINDICTION_SIGN iSTRUMENTAL_NOTATION_SYMBOL-1 zl1 zl2 zl3 zl4 zl7 zl8 zl9 zk2 zl3 zl4 zl5 zl6 zl7
zl9 zk30 zl2 zl6 zl7 zl8 zl9 zk4 zl0 zl2 zl3 zl5 zl7 zl8 zl9 zk5 zl0 zl1 zl2 zl3 zl4 zk7 zk8
gKAI_SYMBOL iPPA_SYMBOL hORONIS hYATHOS_BASE_SIGN gLETTER_ARCHAIC_KOPPA nDIGAMMA nKOPPA nSAMPI
oMALL_CAPITAL_GAMMA zcLAMDA zcOMEGA zcPI zdSI zcRHO oTIGMA nYOT hITRA_SIGN hOWER_NUMERAL_SIGN
hUNATE_EPSILON_SYMBOL nSIGMA_SYMBOL gMETRETES_SIGN hUSICAL_LEIMMA gNUMERAL_SIGN gOBOL_SIGN
hNE_HALF_SIGN t_ALTERNATE_FORM kQUARTER_SIGN hUNKIA_SIGN hXIA gPERISPOMENI hHI_SYMBOL hI_SYMBOL
hROSGEGRAMMENI hSILI l_AND_OXIA qPERISPOMENI qVARIA gQUESTION_MARK gREVERSED_LUNATE_EPSILON_SYMBOL
hHO_SYMBOL kWITH_STROKE_SYMBOL gSINUSOID_SIGN hMALL_DOTTED_LUNATE_SIGMA_SYMBOL mLETTER_ALPHA
y_WITH_DASIA zk_AND_OXIA zt_AND_YPOGEGRAMMENI zpPERISPOMENI zzb_AND_YPOGEGRAMMENI zpVARIA
zu_AND_YPOGEGRAMMENI zpYPOGEGRAMMENI zfMACRON zfOXIA zj_AND_YPOGEGRAMMENI zfPERISPOMENI
zq_AND_YPOGEGRAMMENI zgSILI zk_AND_OXIA zt_AND_YPOGEGRAMMENI zpPERISPOMENI zzb_AND_YPOGEGRAMMENI
zpVARIA zu_AND_YPOGEGRAMMENI zpYPOGEGRAMMENI zfTONOS zfVARIA zk_AND_YPOGEGRAMMENI zgRACHY
zfYPOGEGRAMMENI uRCHAIC_KOPPA zcSAMPI tBETA tCHI tDELTA uIGAMMA tEPSILON zb_WITH_DASIA zm_AND_OXIA
zrVARIA zhOXIA zhPSILI zm_AND_OXIA zrVARIA zhTONOS zhVARIA uTA w_WITH_DASIA zi_AND_OXIA
zr_AND_YPOGEGRAMMENI znPERISPOMENI zy_AND_YPOGEGRAMMENI znVARIA zs_AND_YPOGEGRAMMENI znYPOGEGRAMMENI
zdOXIA zh_AND_YPOGEGRAMMENI zdPERISPOMENI zo_AND_YPOGEGRAMMENI zeSILI zi_AND_OXIA
zr_AND_YPOGEGRAMMENI znPERISPOMENI zy_AND_YPOGEGRAMMENI znVARIA zs_AND_YPOGEGRAMMENI znYPOGEGRAMMENI
zdTONOS zdVARIA zi_AND_YPOGEGRAMMENI zdYPOGEGRAMMENI tFINAL_SIGMA tGAMMA tHETA tIOTA x_WITH_DASIA
zj_AND_OXIA zoPERISPOMENI zoVARIA zfIALYTIKA zn_AND_OXIA zsPERISPOMENI zsTONOS zsVARIA zeMACRON
zeOXIA zePERISPOMENI zfSILI zj_AND_OXIA zoPERISPOMENI zoVARIA zeTONOS zeVARIA zfRACHY tKAPPA uOPPA
tLAMDA tMU tNU tOMEGA y_WITH_DASIA zk_AND_OXIA zt_AND_YPOGEGRAMMENI zpPERISPOMENI
zzb_AND_YPOGEGRAMMENI zpVARIA zu_AND_YPOGEGRAMMENI zpYPOGEGRAMMENI zfOXIA zj_AND_YPOGEGRAMMENI
zfPERISPOMENI zq_AND_YPOGEGRAMMENI zgSILI zk_AND_OXIA zt_AND_YPOGEGRAMMENI zpPERISPOMENI
zzb_AND_YPOGEGRAMMENI zpVARIA zu_AND_YPOGEGRAMMENI zpYPOGEGRAMMENI zfTONOS zfVARIA
zk_AND_YPOGEGRAMMENI zfYPOGEGRAMMENI vICRON zb_WITH_DASIA zm_AND_OXIA zrVARIA zhOXIA zhPSILI
zm_AND_OXIA zrVARIA zhTONOS zhVARIA tPAMPHYLIAN_DIGAMMA uHI uI uSI tRHO w_WITH_DASIA zdPSILI tSAMPI
vN uHO uIGMA uTIGMA tTAU uHETA tUPSILON zb_WITH_DASIA zm_AND_OXIA zrPERISPOMENI zrVARIA ziIALYTIKA
zq_AND_OXIA zvPERISPOMENI zvTONOS zvVARIA zhMACRON zhOXIA zhPERISPOMENI ziSILI zm_AND_OXIA
zrPERISPOMENI zrVARIA zhTONOS zhVARIA ziRACHY tXI tZETA mREVERSED_DOTTED_LUNATE_SIGMA_SYMBOL
vLUNATE_SIGMA_SYMBOL hUBSCRIPT_SMALL_LETTER_BETA zeCHI zeGAMMA zePHI zeRHO hYMBOL_TAU_RHO
gTALENT_SIGN hHETA_SYMBOL iREE_OBOLS_SIGN mQUARTERS_SIGN hONOS hRYBLION_BASE_SIGN hWO_OBOLS_SIGN
kTHIRDS_SIGN gUPSILON_WITH_ACUTE_AND_HOOK_SYMBOL tDIAERESIS_AND_HOOK_SYMBOL tHOOK_SYMBOL gVARIA
hOCAL_NOTATION_SYMBOL-1 ze0 ze1 ze2 ze3 ze4 ze5 ze6 ze7 ze8 ze9 zd2 ze0 ze1 ze2 ze3 ze4 zd3 zd4 zd5
ze0 ze1 ze2 ze3 ze4 zd6 zd7 zd8 zd9 gXESTES_SIGN gYEAR_SIGN hPOGEGRAMMENI gZERO_SIGN eN_APPLE gBOOK
gHEART gSALAD cIMACING_FACE dNNING_CAT_FACE_WITH_SMILING_EYES jFACE
n_WITH_ONE_LARGE_AND_ONE_SMALL_EYE tSMILING_EYES uTAR_EYES cOUP_MARK gSEPARATOR dWING_HEART bS
bUARANI_SIGN eDSMAN cIDE_DOG dTAR cJARATI_ABBREVIATION_SIGN jDIGIT_EIGHT pFIVE qOUR pNINE pONE
pSEVEN qIX pTHREE qWO pZERO jLETTER_A rA rI rU qBA rHA qCA rHA qDA rDA sHA rHA qE qGA rHA qHA qI rI
qJA rHA qKA rHA qLA rLA qMA qNA rGA rNA rYA qO qPA rHA qRA qSA rHA rSA qTA rHA rTA sHA qU rU qVA
rOCALIC_L zL yR zR qYA qZHA jOM jRUPEE_SIGN jSIGN_ANUSVARA pVAGRAHA oCANDRABINDU pIRCLE_NUKTA_ABOVE
oMADDAH oNUKTA oSHADDA pUKUN oTHREE-DOT_NUKTA_ABOVE pWO-CIRCLE_NUKTA_ABOVE oVIRAMA qSARGA
jVOWEL_CANDRA_E wO pSIGN_AA vI vU uCANDRA_E zcO uE uI vI uO uU vU uVOCALIC_L zeL zdR zeR
cNJALA_GONDI_DIGIT_EIGHT uFIVE vOUR uNINE uONE uSEVEN vIX uTHREE vWO uZERO oLETTER_A wA wI wU vBA
wHA vCA wHA vDA wDA xHA wHA vEE vGA wHA vHA vI wI vJA wHA vKA wHA vLA wLA vMA vNA wGA vOO vPA wHA
vRA vSA vTA wHA wTA xHA vU wU vVA vYA oOM oSIGN_ANUSVARA tVISARGA oVIRAMA pOWEL_SIGN_AA zbI zbU zEE
zI zbI zOO zU zbU cRMUKHI_ABBREVIATION_SIGN kDDAK jDIGIT_EIGHT pFIVE qOUR pNINE pONE pSEVEN qIX
pTHREE qWO pZERO jEK_ONKAR jIRI jLETTER_A rA rI rU qBA rHA qCA rHA qDA rDA sHA rHA qEE qFA qGA rHA
sHA qHA qI rI qJA rHA qKA rHA sHA qLA rLA qMA qNA rGA rNA rYA qOO qPA rHA qRA rRA qSA rHA qTA rHA
rTA sHA qU rU qVA qYA qZA jSIGN_ADAK_BINDI oBINDI oNUKTA oUDAAT oVIRAMA qSARGA oYAKASH jTIPPI jURA
jVOWEL_SIGN_AA vI vU uEE uI vI uOO uU vU"

def namesWithH : String := "
aHADES cIR_SPACE eCUT cLFWIDTH_BLACK_SQUARE kDOWNWARDS_ARROW kFORMS_LIGHT_VERTICAL kHANGUL_FILLER
rLETTER_A zE yCHIEUCH zIEUC yE zO zU yHIEUH yI zEUNG yKHIEUKH zIYEOK zf-SIOS yMIEUM yNIEUN ze-CIEUC
zfHIEUH yO zE yPHIEUPH zIEUP ze-SIOS yRIEUL ze-HIEUH zfKIYEOK zfMIEUM zfPHIEUPH zgIEUP zfSIOS
zfTHIEUTH ySIOS zSANGCIEUC zeKIYEOK zePIEUP zeSIOS zeTIKEUT yTHIEUTH zIKEUT yU yWA zbE zE zbO zI yYA
zbE zE zbO zI zO zU kIDEOGRAPHIC_COMMA wFULL_STOP kKATAKANA_LETTER_A zbE zbHA zcE zcI zcO zcU zbI
zbKA zcE zcI zcO zcU zbMA zcE zcI zcO zcU zbN zcA zcE zcI zcO zcU zbO zbRA zcE zcI zcO zcU zbSA zcE
zcI zcMALL_A zhE zhI zhO zhTU zhU zhYA ziO ziU zcO zcU zbTA zcE zcI zcO zcU zbU zbWA zcO zbYA zcO
zcU tMIDDLE_DOT tSEMI-VOICED_SOUND_MARK tVOICED_SOUND_MARK s-HIRAGANA_PROLONGED_SOUND_MARK
kLEFT_CORNER_BRACKET oWARDS_ARROW kRIGHT_CORNER_BRACKET pWARDS_ARROW kUPWARDS_ARROW kWHITE_CIRCLE
cMBURGER dMER g_AND_PICK lSICKLE lWRENCH dSA eTER_FACE cND_WITH_INDEX_AND_MIDDLE_FINGERS_CROSSED
qFINGER_AND_THUMB_CROSSED eBAG gLL eSHAKE dGUL_CHOSEONG_CEONGCHIEUMCHIEUCH zdIEUC zcSIOS zdSANGCIEUC
zhSIOS rHIEUCH x-HIEUH yKHIEUKH tTUEUMCHIEUCH zIEUC ySIOS zSANGCIEUC zeSIOS rIEUC v-IEUNG qFILLER
qHIEUH v-SIOS qIEUNG v-CHIEUCH xIEUC wHIEUH wKIYEOK wMIEUM wPANSIOS xHIEUPH xIEUP wRIEUL wSIOS
wTHIEUTH xIKEUT qKAPYEOUNMIEUM yPHIEUPH zIEUP yRIEUL ySSANGPIEUP rHIEUKH rIYEOK w-TIKEUT qMIEUM
v-KIYEOK wPIEUP wSIOS wTIKEUT qNIEUN v-CIEUC wHIEUH wKIYEOK wPIEUP wSIOS wTIKEUT qPANSIOS rHIEUPH
x-HIEUH yPIEUP rIEUP v-CHIEUCH xIEUC wHIEUH wKHIEUKH xIYEOK wNIEUN wPHIEUPH wSIOS zb-CIEUC zcKIYEOK
zcPIEUP zcTHIEUTH zdIKEUT xSANGSIOS wTHIEUTH xIKEUT qRIEUL v-CIEUC wHIEUH wKAPYEOUNPIEUP xHIEUKH
xIYEOK wMIEUM wNIEUN wPIEUP wSIOS xSANGKIYEOK zcPIEUP zcTIKEUT wTIKEUT qSIOS u-CHIEUCH wIEUC vHIEUH
vIEUNG vKHIEUKH wIYEOK vMIEUM vNIEUN vPHIEUPH wIEUP zb-KIYEOK vRIEUL vSSANGSIOS vTHIEUTH wIKEUT
rSANGCIEUC zb-HIEUH vHIEUH vIEUNG vKIYEOK vNIEUN vPIEUP vRIEUL vSIOS z-PIEUP vTHIEUTH wIKEUT
vYEORINHIEUH qTHIEUTH rIKEUT w-CIEUC xKIYEOK xMIEUM xPIEUP xRIEUL xSIOS qYEORINHIEUH sSIEUNG
hDOUBLE_DOT_TONE_MARK hFILLER hJONGSEONG_CHIEUCH sIEUC w-PIEUP xSSANGPIEUP rHIEUH w-MIEUM xNIEUN
xPIEUP xRIEUL rIEUNG w-KHIEUKH yIYEOK xSSANGKIYEOK rKAPYEOUNMIEUM zPHIEUPH zbIEUP zRIEUL sHIEUKH
sIYEOK x-CHIEUCH yHIEUH yKHIEUKH yNIEUN yPIEUP yRIEUL ySIOS zd-KIYEOK rMIEUM w-CHIEUCH yIEUC xHIEUH
xKIYEOK xNIEUN xPANSIOS yIEUP zd-SIOS xRIEUL xSIOS ySANGNIEUN zdSIOS rNIEUN w-CHIEUCH yIEUC xHIEUH
xKIYEOK xPANSIOS xRIEUL xSIOS xTHIEUTH yIKEUT rPANSIOS y-KAPYEOUNPIEUP zPIEUP sHIEUPH y-PIEUP zSIOS
zTHIEUTH sIEUP w-CHIEUCH yIEUC xHIEUH xMIEUM xPHIEUPH xRIEUL zd-PHIEUPH xSIOS zc-TIKEUT xTIKEUT
rRIEUL w-HIEUH xKAPYEOUNPIEUP yHIEUKH yIYEOK ze-HIEUH zfSIOS xMIEUM zd-HIEUH zeKIYEOK zeSIOS xNIEUN
xPANSIOS yHIEUPH yIEUP zd-HIEUH zePHIEUPH zeSIOS zeTIKEUT xSIOS ySANGKIYEOK zdSIOS xTHIEUTH yIKEUT
ze-HIEUH xYEORINHIEUH zj-HIEUH zSIEUNG rSIOS v-CHIEUCH xIEUC wHIEUH wKAPYEOUNPIEUP xIYEOK wMIEUM
wPANSIOS xIEUP wRIEUL wTHIEUTH xIKEUT sSANGCIEUC wIEUNG wKIYEOK wMIEUM wNIEUN wPIEUP wRIEUL
zc-KHIEUKH wSIOS zb-KIYEOK zcTIKEUT wTIKEUT zd-PIEUP wYESIEUNG rTHIEUTH sIKEUT x-CHIEUCH zIEUC
yKIYEOK yPIEUP yRIEUL ySIOS zd-KIYEOK yTHIEUTH rYEORINHIEUH tSIEUNG z-HIEUH zbKHIEUKH zcIYEOK
zbMIEUM zbPANSIOS zbSIOS zcSANGKIYEOK iUNGSEONG_A s-EU tO tU sE sRAEA w-A xE yO xI xU rE sO t-EU uO
uU sU t-A uE vO vU uO uU rFILLER rI s-A uRAEA tEU tI tO u-I tU tYA v-O vE uE vO uO uU rO s-E uO tO
u-I tU tYA vE uE vO sE rSSANGARAEA rU s-A uE tEO-EU tI-I tU tYE vO rWA tE sE tO sI rYA t-O uU uYO tE
sE tO u-O vU vYA sI t-U sO t-A vE uEO uI uO uYA wE vEO sU t-A vE uE vO uI uO uU uYE wO hLETTER_A pE
pRAEA tE oCHIEUCH pIEUC oE pO pU oHIEUH oI pEUNG oKAPYEOUNMIEUM wPHIEUPH xIEUP wSSANGPIEUP pHIEUKH
pIYEOK u-SIOS oMIEUM t-PANSIOS vIEUP uSIOS oNIEUN t-CIEUC uHIEUH uPANSIOS uSIOS uTIKEUT oO pE
oPANSIOS pHIEUPH pIEUP t-CIEUC uKIYEOK uSIOS y-KIYEOK zTIKEUT uTHIEUTH vIKEUT oRIEUL t-HIEUH uKIYEOK
zb-SIOS uMIEUM uPANSIOS vHIEUPH vIEUP z-SIOS uSIOS uTHIEUTH vIKEUT uYEORINHIEUH oSIOS s-CIEUC
tKIYEOK tNIEUN tPIEUP tTIKEUT pSANGCIEUC tHIEUH tIEUNG tKIYEOK tNIEUN tPIEUP tSIOS tTIKEUT oTHIEUTH
pIKEUT oU oWA qE pE qO pI oYA qE pE qO rRINHIEUH qSIEUNG w-PANSIOS xSIOS pI pO q-I rYA tE pU q-I rYE
tO hSINGLE_DOT_TONE_MARK eZHOU_NUMERAL_EIGHT rFIVE sOUR rNINE rONE rSEVEN sIX rTEN sHIRTY tREE
sWENTY tO dIFI_ROHINGYA_DIGIT_EIGHT wFIVE xOUR wNINE wONE wSEVEN xIX wTHREE xWO wZERO qLETTER_A xBA
xCA xDA yDA xFA xGA xHA xJA xKA yHA yINNA_WA zeYA xLA xMA xNA yGA yYA xPA xRA yRA xSA yHA xTA yTA
xVA xWA xYA xZA qMARK_NA_KHONNA vSAKIN qSIGN_HARBAHAY vTAHALA xNA xSSI qVOWEL_A wE wI wO wU
dUNOO_LETTER_A pBA pDA pGA pHA pI pKA pLA pMA pNA qGA pPA pRA pSA pTA pU pWA pYA iSIGN_PAMUDPOD
iVOWEL_SIGN_I tU cPPY_PERSON_RAISING_ONE_HAND cRD_DISK cTCHING_CHICK dRAN_LETTER_ALEPH pYN oBETH
oDALETH-RESH oGIMEL oHE qTH oKAPH oLAMEDH oMEM oNUN oPE oQOPH oSADHE qMEKH pHIN oTAW pETH oWAW oYODH
oZAYN hNUMBER_FIVE oONE r_HUNDRED oTEN pWENTY bEADPHONE eSTONE j_GRAVEYARD_SYMBOL dR-NO-EVIL_MONKEY
eT_DECORATION gHANDS gWITH_ARROW lRIBBON lTIP_ON_THE_LEFT dVY_AMPERSAND_ORNAMENT
hRROW_SHAFT_WIDTH_ONE zc_HALF zdTHIRD yTWO_THIRDS hSTERISK gBALLOT_X
hLACK_CURVED_DOWNWARDS_AND_RIGHTWARDS_ARROW tUPWARDS_AND_RIGHTWARDS_ARROW mHEART
l-FEATHERED_NORTH_EAST_ARROW wRIGHTWARDS_ARROW wSOUTH_EAST_ARROW gCHECK_MARK jVRON_SNOWFLAKE hIRCLE
m_WITH_CIRCLE_INSIDE sSTROKE_AND_TWO_DOTS_ABOVE mD_SALTIRE hONCAVE-POINTED_BLACK_RIGHTWARDS_ARROW
gDASHED_TRIANGLE-HEADED_RIGHTWARDS_ARROW hIVISION_SIGN hOLLAR_SIGN
iUBLE_COMMA_QUOTATION_MARK_ORNAMENT nTURNED_COMMA_QUOTATION_MARK_ORNAMENT
iWNWARDS_ARROW_WITH_EQUILATERAL_ARROWHEAD zcLARGE_EQUILATERAL_ARROWHEAD gEIGHT_POINTED_BLACK_STAR
uPINWHEEL_STAR uRECTILINEAR_BLACK_STAR mSPOKED_ASTERISK mTEARDROP-SPOKED_PROPELLER_ASTERISK
hQUALS_SIGN hXCLAMATION_MARK_ORNAMENT xSYMBOL gFIVE_POINTED_BLACK_STAR lSPOKED_ASTERISK
hOUR_BALLOON-SPOKED_ASTERISK gGREEK_CROSS gHEART_EXCLAMATION_MARK_ORNAMENT hORIZONTAL_FILL
gINTERROBANG_ORNAMENT gLARGE_CIRCLE iTIN_CROSS hEFT-POINTING_ANGLE_BRACKET_ORNAMENT
zbQUOTATION_MARK_ORNAMENT kWARDS_ARROW_WITH_EQUILATERAL_ARROWHEAD zcLARGE_EQUILATERAL_ARROWHEAD
hIGATURE_OPEN_ET_ORNAMENT hOW_DOUBLE_COMMA_QUOTATION_MARK_ORNAMENT
kSINGLE_COMMA_QUOTATION_MARK_ORNAMENT jER_RIGHT-SHADOWED_WHITE_RIGHTWARDS_ARROW gMINUS_SIGN
hULTIPLICATION_X gNORTH_EAST_ARROW rPOINTING_BUD zbVINE_LEAF mWEST_POINTING_BUD zbVINE_LEAF
gOPEN_CENTRE_CROSS hUTLINED_BLACK_STAR hVAL_WITH_OVAL_INSIDE gPLUS_SIGN
gRIGHT-POINTING_ANGLE_BRACKET_ORNAMENT zcQUOTATION_MARK_ORNAMENT lWARDS_ARROW
w_WITH_EQUILATERAL_ARROWHEAD zdLARGE_EQUILATERAL_ARROWHEAD hOUND-TIPPED_RIGHTWARDS_ARROW gSALTIRE
iNS-SERIF_INTERROBANG_ORNAMENT hCRIPT_LIGATURE_ET_ORNAMENT hINGLE_COMMA_QUOTATION_MARK_ORNAMENT
nTURNED_COMMA_QUOTATION_MARK_ORNAMENT iX_POINTED_BLACK_STAR kSPOKED_ASTERISK hOUTH_EAST_ARROW
rPOINTING_BUD zbVINE_LEAF mWEST_POINTING_BUD zbVINE_LEAF hPARKLE gTEARDROP-SHANKED_RIGHTWARDS_ARROW
qPOKED_ASTERISK wPINWHEEL_ASTERISK hRIANGLE-HEADED_RIGHTWARDS_ARROW hWELVE_POINTED_BLACK_STAR
vPINWHEEL_STAR gUPPER_RIGHT-SHADOWED_WHITE_RIGHTWARDS_ARROW iWARDS_ARROW_WITH_EQUILATERAL_ARROWHEAD
zLARGE_EQUILATERAL_ARROWHEAD gVERTICAL_BAR gWEDGE-TAILED_RIGHTWARDS_ARROW hHITE_CIRCLE
mDOWN-POINTING_TRIANGLE mSQUARE hIDE-HEADED_RIGHTWARDS_ARROW cBREW_ACCENT_ATNAH_HAFUKH oDARGA pEHI
oETNAHTA oGERESH u_MUQDAM rSHAYIM oILUY oMAHAPAKH pERKHA u_KEFULA pUNAH oOLE oPASHTA qZER oQADMA
qRNEY_PARA oREVIA oSEGOL pHALSHELET oTELISHA_GEDOLA wQETANA qVIR pIPEHA oYERAH_BEN_YOMO qTIV
oZAQEF_GADOL uQATAN qRQA pINOR hLETTER_ALEF s_WITH_MAPIQ yPATAH yQAMATS qTERNATIVE_AYIN zbPLUS_SIGN
pYIN oBET r_WITH_DAGESH xRAFE oDALET t_WITH_DAGESH oFINAL_KAF x_WITH_DAGESH uMEM uNUN uPE
w_WITH_DAGESH uTSADI oGIMEL t_WITH_DAGESH oHE q_WITH_MAPIQ qT oKAF r_WITH_DAGESH xRAFE oLAMED
t_WITH_DAGESH oMEM r_WITH_DAGESH oNUN r_WITH_DAGESH oPE q_WITH_DAGESH wRAFE oQOF r_WITH_DAGESH oRESH
s_WITH_DAGESH oSAMEKH u_WITH_DAGESH pHIN s_WITH_DAGESH zf_AND_SHIN_DOT zlIN_DOT ySHIN_DOT zIN_DOT
oTAV r_WITH_DAGESH pET r_WITH_DAGESH pSADI t_WITH_DAGESH oVAV r_WITH_DAGESH xHOLAM oWIDE_ALEF tDALET
tFINAL_MEM tHE tKAF tLAMED tRESH tTAV oYOD r_WITH_DAGESH xHIRIQ oZAYIN t_WITH_DAGESH
iIGATURE_ALEF_LAMED qYIDDISH_DOUBLE_VAV zgYOD yVAV_YOD yYOD_YOD_PATAH hMARK_LOWER_DOT mMASORA_CIRCLE
mUPPER_DOT hPOINT_DAGESH_OR_MAPIQ nHATAF_PATAH tQAMATS tSEGOL oIRIQ oOLAM s_HASER_FOR_VAV
nJUDEO-SPANISH_VARIKA nMETEG nPATAH nQAMATS t_QATAN oUBUTS nRAFE nSEGOL oHEVA pIN_DOT oIN_DOT nTSERE
iUNCTUATION_GERESH wSHAYIM tMAQAF tNUN_HAFUKHA tPASEQ tSOF_PASUQ hYOD_TRIANGLE cDGEHOG cLICOPTER
dLSCHREIBER_PAUSE_SYMBOL dM_SYMBOL eET_WITH_WHITE_CROSS cNTAIGANA_LETTER_A-1 u2 u3 uWO sE-1 u2 u3 u4
u5 u6 sHA-1 w0 w1 v2 v3 v4 v5 v6 v7 v8 v9 tE-1 v2 v3 v4 v5 v6 v7 tI-1 v2 v3 v4 v5 v6 v7 tO-1 v2 v3
v4 v5 v6 v7 v8 tU-1 v2 v3 sI-1 u2 u3 u4 sKA-1 w0 w1 v2 v3 v4 v5 v6 v7 v8 v9 vKE tE-1 v2 v3 v4 v5 v6
tI-1 v2 v3 v4 v5 v6 v7 v8 tO-1 v2 v3 vKI tU-1 v2 v3 v4 v5 v6 v7 sMA-1 v2 v3 v4 v5 v6 v7 tE-1 v2 vMA
tI-1 v2 v3 v4 v5 v6 v7 tO-1 v2 v3 v4 v5 v6 tU-1 v2 v3 v4 sN-MU-MO-1 zb2 tA-1 v2 v3 v4 v5 v6 v7 v8 v9
tE-1 v2 v3 v4 v5 v6 vKO tI-1 v2 v3 v4 v5 v6 v7 vTE tO-1 v2 v3 v4 v5 tU-1 v2 v3 sO-1 u2 u3 sRA-1 v2
v3 v4 tE-1 v2 v3 v4 tI-1 v2 v3 v4 v5 v6 v7 tO-1 v2 v3 v4 v5 v6 tU-1 v2 v3 v4 v5 v6 sSA-1 v2 v3 v4 v5
v6 v7 v8 tE-1 v2 v3 v4 v5 tI-1 v2 v3 v4 v5 v6 tO-1 v2 v3 v4 v5 v6 v7 tU-1 v2 v3 v4 v5 v6 v7 v8 sTA-1
v2 v3 v4 tE-1 v2 v3 v4 v5 v6 v7 v8 v9 tI-1 v2 v3 v4 v5 v6 v7 tO-1 v2 v3 v4 v5 v6 vRA tU-1 v2 v3 v4
vTO sU-1 u2 u3 u4 u5 sWA-1 v2 v3 v4 v5 tE-1 v2 v3 v4 tI-1 v2 v3 v4 v5 tO-1 v2 v3 v4 v5 v6 v7 sYA-1
v2 v3 v4 v5 vYO tO-1 v2 v3 v4 v5 v6 tU-1 v2 v3 v4 cRB dMITIAN_CONJUGATE_MATRIX cXAGRAM_FOR_ABUNDANCE
oFTER_COMPLETION oPPROACH nBEFORE_COMPLETION oITING_THROUGH oREAKTHROUGH nCOMING_TO_MEET pNFLICT
qTEMPLATION nDARKENING_OF_THE_LIGHT oECREASE pLIVERANCE pVELOPMENT oIFFICULTY_AT_THE_BEGINNING
pSPERSION oURATION nENTHUSIASM nFELLOWSHIP oOLLOWING nGATHERING_TOGETHER oRACE pEAT_POSSESSION vWER
uREPONDERANCE tTAMING nHOLDING_TOGETHER nINCREASE pFLUENCE pNER_TRUTH qOCENCE nLIMITATION nMODESTY
pUTH_CORNERS nOBSTRUCTION oPPOSITION qRESSION nPEACE oROGRESS oUSHING_UPWARD nRETREAT qURN pVOLUTION
nSMALL_PREPONDERANCE tTAMING oPLITTING_APART oTANDSTILL nTHE_ABYSMAL_WATER sRMY tOUSING_THUNDER
rCAULDRON sLINGING_FIRE sREATIVE_HEAVEN rFAMILY rGENTLE_WIND rJOYOUS_LAKE rKEEPING_STILL_MOUNTAIN
rMARRYING_MAIDEN rRECEPTIVE_EARTH rWANDERER sELL oREADING nWAITING oORK_ON_THE_DECAYED
nYOUTHFUL_FOLLY bIBISCUS cGH_BRIGHTNESS_SYMBOL fOCTET_PRESET fVOLTAGE_SIGN e-HEELED_SHOE
fSPEED_TRAIN q_WITH_BULLET_NOSE cKING_BOOT cNDU_TEMPLE cPPOPOTAMUS cRAGANA_DIGRAPH_YORI
jITERATION_MARK jLETTER_A rRCHAIC_WU yYE qBA rE rI rO rU qDA rE rI rO rU qE qGA rE rI rO rU qHA rE
rI rO rU qI qKA rE rI rO rU qMA rE rI rO rU qN rA rE rI rO rU qO qPA rE rI rO rU qRA rE rI rO rU qSA
rE rI rMALL_A wE wI wKA xE wO wTU wU wWA xE xI xO wYA xO xU rO rU qTA rE rI rO rU qU qVU qWA rE rI
rO qYA rO rU qZA rE rI rO rU jVOICED_ITERATION_MARK cSTORIC_SITE bOCHO cLE
dLOW_QUILT_SQUARE_ORNAMENT zd_IN_BLACK_SQUARE cMOTHETIC cNEY_POT fBEE cOK cP cRIZONTAL_BAR
mLACK_HEXAGON rOCTAGON lELLIPSIS lLINE_EXTENSION lMALE_WITH_STROKE_SIGN lONE_EIGHTH_BLOCK-1358 zd2
zd3 zd4 zd5 zd6 zd7 lSCAN_LINE-1 v3 v7 v9 lTAB_KEY oULATION v_SET wWITH_JUSTIFICATION mRAFFIC_LIGHT
dSE f_FACE gRACING cSPITAL cT_BEVERAGE eDOG ePEPPER eSPRINGS dEL cURGLASS j_WITH_FLOWING_SAND dSE
f_BUILDING oS gWITH_GARDEN bRYVNIA_SIGN bT cJ cS bUGGING_FACE cNDRED_POINTS_SYMBOL cSHED_FACE cT
bYGIEA cPHEN g_BULLET hWITH_DIAERESIS g-MINUS gATION_POINT dODIASTOLE cSTERESIS_SYMBOL"

def namesWithI : String := "
aI_LOVE_YOU_HAND_SIGN bCE_CREAM fUBE eHOCKEY_STICK_AND_PUCK eSKATE bDENTICAL_TO
m_AND_SLANTED_PARALLEL kWITH_DOT_ABOVE gFICATION_CARD dOGRAPHIC_ANNOTATION_BOTTOM_MARK xEARTH_MARK
xFIRST_MARK yOUR_MARK zcTH_MARK xHEAVEN_MARK xLINKING_MARK xMAN_MARK yIDDLE_MARK xONE_MARK
xREVERSE_MARK xSECOND_MARK xTHIRD_MARK zREE_MARK yOP_MARK yWO_MARK mCLOSING_MARK nOMMA
mDEPARTING_TONE_MARK oSCRIPTION_CHARACTER_ABOVE_TO_BELOW zsMIDDLE_AND_BELOW zjFULL_SURROUND
zjLEFT_TO_MIDDLE_AND_RIGHT zrRIGHT zjOVERLAID zjSURROUND_FROM_ABOVE zxBELOW zxLEFT zyOWER_LEFT
zxUPPER_LEFT zzeRIGHT mENTERING_TONE_MARK mFULL_STOP mHALF_FILL_SPACE mITERATION_MARK
mLEVEL_TONE_MARK mNUMBER_ZERO mRISING_TONE_MARK mSPACE mTALLY_MARK_FIVE yOUR xONE xTHREE yWO
nELEGRAPH_LINE_FEED_SEPARATOR_SYMBOL wSYMBOL_FOR_APRIL zjUGUST ziDAY_EIGHT zrEEN znLEVEN zmFIFTEEN
zoVE znOUR zqTEEN zmNINE zqTEEN zmONE zmSEVEN zrTEEN znIX zpTEEN zmTEN znHIRTEEN zrY zs-ONE zoREE
znWELVE zpNTY zs-EIGHT ztFIVE zuOUR ztNINE ztONE ztSEVEN zuIX ztTHREE zuWO zoO zjECEMBER ziFEBRUARY
ziHOUR_EIGHT zsEEN zoLEVEN znFIFTEEN zpVE zoOUR zrTEEN znNINE zrTEEN znONE znSEVEN zsTEEN zoIX
zqTEEN znTEN zoHIRTEEN zpREE zoWELVE zqNTY zt-FOUR zuONE zuTHREE zvWO zpO znZERO ziJANUARY zjULY
zkNE ziMARCH zkY ziNOVEMBER ziOCTOBER ziSEPTEMBER mVARIATION_INDICATOR bMAGE_OF
i_OR_APPROXIMATELY_EQUAL_TO cP dERIAL_ARAMAIC_LETTER_ALEPH zYIN yBETH yDALETH yGIMEL yHE zbTH yKAPH
yLAMEDH yMEM yNUN yPE yQOPH yRESH ySADHE zbMEKH zHIN yTAW zETH yWAW yYODH yZAYIN rNUMBER_ONE
zc_HUNDRED zdTHOUSAND yTEN zc_THOUSAND zHREE zWENTY zbO rSECTION_SIGN bNBOX_TRAY cCOMING_ENVELOPE
fPLETE_INFINITY dREASE_FONT_SIZE_SYMBOL iS_AS fMENT cD dEX f_POINTING_AT_THE_VIEWER dIAN_RUPEE_SIGN
eC_SIYAQ_ALTERNATE_LAKH_MARK mFRACTION_ONE_HALF zQUARTER vTHREE_QUARTERS mLAKH_MARK
mNUMBER_ALTERNATE_ONE zeTEN_THOUSAND zfWO tEIGHT y_HUNDRED zTHOUSAND yY z_THOUSAND tFIFTY y_THOUSAND
vVE x_HUNDRED yTHOUSAND uORTY y_THOUSAND vUR x_HUNDRED yTHOUSAND tKAROR yAN tLAKH xAN tNINE
x_HUNDRED yTHOUSAND xTY z_THOUSAND tONE w_HUNDRED xTHOUSAND tPREFIXED_EIGHT zdFIVE zeOUR zdNINE
zdONE zdSEVEN zeIX zdTHREE zeWO tSEVEN y_HUNDRED zTHOUSAND yTY zb_THOUSAND uIX w_HUNDRED xTHOUSAND
wTY y_THOUSAND tTEN w_THOUSAND uHIRTY z_THOUSAND vREE y_HUNDRED zTHOUSAND uWENTY z_THOUSAND vO
w_HUNDRED xTHOUSAND mPLACEHOLDER mRUPEE_MARK cFINITY i_NEGATED_WITH_VERTICAL_BAR
dORMATION_DESK_PERSON mSEPARATOR_FOUR wONE wTHREE xWO nOURCE cHIBIT_ARABIC_FORM_SHAPING
iSYMMETRIC_SWAPPING cPUT_SYMBOL_FOR_LATIN_CAPITAL_LETTERS xLETTERS xSMALL_LETTERS rNUMBERS rSYMBOLS
cSCRIPTIONAL_PAHLAVI_LETTER_ALEPH zeBETH zeDALETH zeGIMEL zeHE zgTH zeKAPH zeLAMEDH zeMEM-QOPH zeNUN
zePE zeSADHE zgMEKH zfHIN zeTAW zfETH zeWAW-AYIN-RESH zeYODH zeZAYIN wNUMBER_FOUR zeONE zh_HUNDRED
ziTHOUSAND zeTEN zfHREE zfWENTY zgO qRTHIAN_LETTER_ALEPH zgYIN zfBETH zfDALETH zfGIMEL zfHE zhTH
zfKAPH zfLAMEDH zfMEM zfNUN zfPE zfQOPH zfRESH zfSADHE zhMEKH zgHIN zfTAW zgETH zfWAW zfYODH zfZAYIN
xNUMBER_FOUR zfONE zi_HUNDRED zjTHOUSAND zfTEN zgHREE zgWENTY zhO dERTION_SYMBOL cTEGRAL
i_AROUND_A_POINT_OPERATOR kVERAGE_WITH_SLASH jEXTENSION jWITH_DOUBLE_STROKE oINTERSECTION
oLEFTWARDS_ARROW_WITH_HOOK oOVERBAR oTIMES_SIGN oUNDERBAR qION eRCALATE fIOR_PRODUCT
fLINEAR_ANNOTATION_ANCHOR xSEPARATOR xTERMINATOR gOCKED_FEMALE_AND_MALE_SIGN fROBANG fSECTION
m_ABOVE_BAR_ABOVE_UNION tUNION nBESIDE_AND_JOINED_WITH_INTERSECTION nWITH_DOT sLOGICAL_AND sOVERBAR
cVERSE_BULLET iCHECK_MARK nER_BOARD_FILL iDOWNWARDS_ARROW_WITH_TIP_LEFTWARDS iMEDIUM_SHADE
iWHITE_CIRCLE fTED_EXCLAMATION_MARK jINTERROBANG jLAZY_S kOW_KAVYKA t_WITH_KAVYKA_ABOVE jOHM_SIGN
jPENTAGRAM jQUESTION_MARK jUNDERTIE dISIBLE_PLUS kSEPARATOR kTIMES bZAKAYA_LANTERN"

def namesWithJ : String := "
aJACK-O-LANTERN cPANESE_BANK_SYMBOL jCASTLE jDOLLS jGOBLIN jINDUSTRIAL_STANDARD_SYMBOL jOGRE
jPOST_OFFICE jSYMBOL_FOR_BEGINNER cR cVANESE_CONSONANT_SIGN_CAKRA yKERET yPENGKAL jDIGIT_EIGHT pFIVE
qOUR pNINE pONE pSEVEN qIX pTHREE qWO pZERO jLEFT_RERENGGAN lTTER_A rI qBA s_MURDA qCA s_MURDA qDA
s_MAHAPRANA rDA t_MAHAPRANA qE qGA s_MURDA qHA qI r_KAWI rI qJA s_MAHAPRANA qKA s_MURDA tSASAK qLA
qMA qNA s_MURDA rGA t_LELET z_RASWADI rYA t_MURDA qO qPA s_CEREK tMURDA qRA s_AGUNG qSA s_MAHAPRANA
uURDA qTA s_MURDA rTA t_MAHAPRANA qU qWA qYA jPADA_ADEG s_ADEG pNDAP oISEN-ISEN oLINGSA pUHUR qNGSI
oMADYA oPANGKAT pISELEH oTIRTA_TUMETES oWINDU lNGKON nRANGKEP jRIGHT_RERENGGAN jSIGN_CECAK t_TELU
oLAYAR oPANYANGGA oWIGNYAN jTURNED_PADA_PISELEH jVOWEL_SIGN_DIRGA_MURE uPEPET uSUKU y_MENDUT uTALING
wRUNG vOLONG uWULU y_MELIK bEANS bIGSAW_PUZZLE_PIECE bOIN cYSTICK bUGGLING cNO cPITER"

def namesWithK : String := "
aKAABA cITHI_ABBREVIATION_SIGN hDANDA iOUBLE_DANDA oSECTION_MARK hENUMERATION_SIGN hLETTER_A pA pI
pU oBA pHA oCA pHA oDA pDA qDHA qHA pHA oE oGA pHA oHA oI pI oJA pHA oKA pHA oLA oMA oNA pGA pNA pYA
oO oPA pHA oRA pHA oSA pHA pSA oTA pHA pTA qHA oU pU oVA oYA hNUMBER_SIGN s_ABOVE hSECTION_MARK
iIGN_ANUSVARA mCANDRABINDU mNUKTA mVIRAMA oSARGA hVOWEL_SIGN_AA tI tU sE sI tI sO sU tU sVOCALIC_R
cNGAROO eXI_RADICAL_AGAIN qND qRRIVE sOW qXE pBADGER rMBOO qEAN qIG rRD rTTER qLACK rOOD rUE qOAT
rDY rLT_OF_CLOTH rNE rW qRANCH rISTLE rUSH pCART rULDRON rVE qHILD qITY qLAN sW rIFF rOTHES qOLOR
rMPARE rRPSE rVER rW pDEATH rER qIPPER rSH sTINGUISH rVINATION qO_NOT rG rOR rT sTED_CLIFF wTENT
rUBLE_X rWN_BOX qRAGON rUM rY pEAR sTH rT qIGHT qMBROIDERY qNCLOSURE rTER qVEN tING qYE pFACE rNG
rTHER qEATHER qIELD rGHT rRE rSH qLUTE rY qOOT qRAGRANT rOG qUR pGATE qHOST qO r_SLOWLY rLD qRAIN
sSS pHAIR rLBERD sF_TREE_TRUNK rND qEAD sRT rMP qIDING_ENCLOSURE qOOK rRN sSE pICE qNCH rSECT pJADE
rR pKNIFE pLACK rME qEAF sTHER rEK rGS qID rFE rNE qONG t_STRIDE pMAN qEAT rLON qILLET rNISTER qOON
rRNING sTAR rUND tTAIN sTH pNET qOSE rT pOLD qNE sSELF qPEN_BOX rPOSE pPIG qLOW qOWER qRIVATE
rOFOUND pRAIN rP rT qED qICE rGHT_OPEN_BOX rVER qOOF qUN pSACRIFICIAL_WINE rLT rY qCHOLAR rRIPT qEAL
rCOND rE rLF qHEEP sLL rOOT sRT_TAILED_BIRD wHREAD qICKNESS rLK qKIN qLASH sVE rICE qMALL qNOUT
qOUND qPEAR sECH rIRIT rOON rROUT qQUARE qTAND rEAM sP rONE sP tPING qUN qWEET pTABLE rLL
rNNED_LEATHER qEN qIGER rLE qONGUE rOTH qRACK rEE rIPOD qURBAN sTLE qWO s_HANDS pUSE pVALLEY qILLAGE
pWALK t_ENCLOSURE rTER qEAPON rST qHEAT rITE qIND sE qOMAN rRK qRAP rONG pYELLOW
dNADA_AI_LENGTH_MARK iDIGIT_EIGHT oFIVE pOUR oNINE oONE oSEVEN pIX oTHREE pWO oZERO iLENGTH_MARK
kTTER_A qA qI qU pBA qHA pCA qHA pDA qDA rHA qHA pE qE pFA pGA qHA pHA pI qI pJA qHA pKA qHA pLA qLA
rLA pMA pNA rKAARA_POLLU qGA qNA qYA pO qO pPA qHA pRA qRA pSA qHA qSA pTA qHA qTA rHA pU qU pVA
qOCALIC_L yL xR yR pYA iSIGN_ANUSVARA oVAGRAHA nCANDRABINDU nJIHVAMULIYA nNUKTA nSIDDHAM
oPACING_CANDRABINDU nUPADHMANIYA nVIRAMA pSARGA iVOWEL_SIGN_AA uI uU tE uE tI uI tO uO tU uU
tVOCALIC_L zdL zcR zdR cTAKANA_DIGRAPH_KOTO jITERATION_MARK jLETTER_A rRCHAIC_E yWU yYE zI qBA rE rI
rO rU qDA rE rI rO rU qE qGA rE rI rO rU qHA rE rI rO rU qI qKA rE rI rO rU qMA rE rI
sNNAN_NASALIZED_TONE-1 zn2 zn3 zn4 zn5 zn7 zn8 xTONE-2 zd3 zd4 zd5 zd7 zd8 rO rU qN rA rE rI rO rU
qO qPA rE rI rO rU qRA rE rI rO rU qSA rE rI rMALL_A wE wHA xE xI xO xU wI wKA xE xU wMU wN xU wO
wRA xE xI xO xU wSI xU wTO xU wU wWA xE xI xO wYA xO xU rO rU qTA rE rI rO rU qU qVA rE rI rO rU qWA
rE rI rO qYA rO rU qZA rE rI rO rU jMIDDLE_DOT jVOICED_ITERATION_MARK i-HIRAGANA_DOUBLE_HYPHEN
sPROLONGED_SOUND_MARK sSEMI-VOICED_SOUND_MARK sVOICED_SOUND_MARK cYAH_LI_DIGIT_EIGHT pFIVE qOUR
pNINE pONE pSEVEN qIX pTHREE qWO pZERO jLETTER_A qBA qCA qDA qGA qHA rTA qI qKA rHA qLA qMA qNA rGA
rYA qOE rO qPA rHA qRA qSA rHA qTA rHA qVA qWA qYA qZA jSIGN_CWI oSHYA jTONE_CALYA t_PLOPHU oPLOPHU
jVOWEL_E qE pO pU qE bELVIN_SIGN cY dBOARD i_AND_MOUSE dCAP_TEN bHAROSHTHI_DIGIT_FOUR rONE rTHREE
sWO lFRACTION_ONE_HALF lLETTER_A sBA tHA sCA tHA sDA tDA uHA tHA sGA tHA sHA sJA sKA tHA tKA sLA sMA
sNA tNA tYA sPA tHA sRA sSA tHA tSA sTA tHA tTA uHA uTA vHA sVA tHA sYA sZA lNUMBER_ONE_HUNDRED
wTHOUSAND sTEN tWENTY lPUNCTUATION_CIRCLE yRESCENT_BAR xDANDA yOT zUBLE_DANDA xLINES yOTUS xMANGALAM
xSMALL_CIRCLE lSIGN_ANUSVARA qBAR_ABOVE qCAUDA qDOT_BELOW sUBLE_RING_BELOW qVISARGA lVIRAMA
mOWEL_LENGTH_MARK rSIGN_E wI wO wU wVOCALIC_R cITAN_SMALL_SCRIPT_CHARACTER-18B00 zj1 zj2 zj3 zj4 zj5
zj6 zj7 zj8 zj9 zjA zjB zjC zjD zjE zjF zi10 zj1 zj2 zj3 zj4 zj5 zj6 zj7 zj8 zj9 zjA zjB zjC zjD zjE
zjF zi20 zj1 zj2 zj3 zj4 zj5 zj6 zj7 zj8 zj9 zjA zjB zjC zjD zjE zjF zi30 zj1 zj2 zj3 zj4 zj5 zj6
zj7 zj8 zj9 zjA zjB zjC zjD zjE zjF zi40 zj1 zj2 zj3 zj4 zj5 zj6 zj7 zj8 zj9 zjA zjB zjC zjD zjE zjF
zi50 zj1 zj2 zj3 zj4 zj5 zj6 zj7 zj8 zj9 zjA zjB zjC zjD zjE zjF zi60 zj1 zj2 zj3 zj4 zj5 zj6 zj7
zj8 zj9 zjA zjB zjC zjD zjE zjF zi70 zj1 zj2 zj3 zj4 zj5 zj6 zj7 zj8 zj9 zjA zjB zjC zjD zjE zjF
zi80 zj1 zj2 zj3 zj4 zj5 zj6 zj7 zj8 zj9 zjA zjB zjC zjD zjE zjF zi90 zj1 zj2 zj3 zj4 zj5 zj6 zj7
zj8 zj9 zjA zjB zjC zjD zjE zjF ziA0 zj1 zj2 zj3 zj4 zj5 zj6 zj7 zj8 zj9 zjA zjB zjC zjD zjE zjF
ziB0 zj1 zj2 zj3 zj4 zj5 zj6 zj7 zj8 zj9 zjA zjB zjC zjD zjE zjF ziC0 zj1 zj2 zj3 zj4 zj5 zj6 zj7
zj8 zj9 zjA zjB zjC zjD zjE zjF ziD0 zj1 zj2 zj3 zj4 zj5 zj6 zj7 zj8 zj9 zjA zjB zjC zjD zjE zjF
ziE0 zj1 zj2 zj3 zj4 zj5 zj6 zj7 zj8 zj9 zjA zjB zjC zjD zjE zjF ziF0 zj1 zj2 zj3 zj4 zj5 zj6 zj7
zj8 zj9 zjA zjB zjC zjD zjE zjF zhC00 zj1 zj2 zj3 zj4 zj5 zj6 zj7 zj8 zj9 zjA zjB zjC zjD zjE zjF
zi10 zj1 zj2 zj3 zj4 zj5 zj6 zj7 zj8 zj9 zjA zjB zjC zjD zjE zjF zi20 zj1 zj2 zj3 zj4 zj5 zj6 zj7
zj8 zj9 zjA zjB zjC zjD zjE zjF zi30 zj1 zj2 zj3 zj4 zj5 zj6 zj7 zj8 zj9 zjA zjB zjC zjD zjE zjF
zi40 zj1 zj2 zj3 zj4 zj5 zj6 zj7 zj8 zj9 zjA zjB zjC zjD zjE zjF zi50 zj1 zj2 zj3 zj4 zj5 zj6 zj7
zj8 zj9 zjA zjB zjC zjD zjE zjF zi60 zj1 zj2 zj3 zj4 zj5 zj6 zj7 zj8 zj9 zjA zjB zjC zjD zjE zjF
zi70 zj1 zj2 zj3 zj4 zj5 zj6 zj7 zj8 zj9 zjA zjB zjC zjD zjE zjF zi80 zj1 zj2 zj3 zj4 zj5 zj6 zj7
zj8 zj9 zjA zjB zjC zjD zjE zjF zi90 zj1 zj2 zj3 zj4 zj5 zj6 zj7 zj8 zj9 zjA zjB zjC zjD zjE zjF
ziA0 zj1 zj2 zj3 zj4 zj5 zj6 zj7 zj8 zj9 zjA zjB zjC zjD zjE zjF ziB0 zj1 zj2 zj3 zj4 zj5 zj6 zj7
zj8 zj9 zjA zjB zjC zjD zjE zjF ziC0 zj1 zj2 zj3 zj4 zj5 zj6 zj7 zj8 zj9 zjA zjB zjC zjD zjE zjF
ziD0 zj1 zj2 zj3 zj4 zj5 uFILLER cMER_CURRENCY_SYMBOL_RIEL gDIGIT_EIGHT mFIVE nOUR mNINE mONE mSEVEN
nIX mTHREE nWO mZERO gINDEPENDENT_VOWEL_LY zbY yQAA zbI zbQ zbU zE zI zbI zOO_TYPE_ONE ziTWO zU zbK
zbU zcV yRY zbY gLETTER_BA nCA oHA pO oO nDA oO nHA nKA oHA pO oO nLA oO nMO nNGO oNO oO oYO nPHA pO
oO nQA nRO nSA oHA oSO nTA oHA pO oO oTHA qO nVO nYO gSIGN_AHSDA mTTHACAN mVAKRAHASANYA lBANTOC
nRIYOOSAN nTHAMASAT mEYYAL lCAMNUC_PII_KUUH mOENG lKAKABAT mHAN mOOMUUT lLEK_TOO lMUUSIKATOAN
lNIKAHIT lPHNAEK_MUAN lREAHMUK mOBAT lSAMYOK_SANNYA lTOANDAKHIAT mRIISAP lVIRIAM lYUUKALEAPINTU
hYMBOL_BEI_KOET rROC oUON_KOET sROC nDAP_KOET rROC q-BEI_KOET vROC sUON_KOET wROC rMUOY_KOET wROC
rPII_KOET vROC sRAM_KOET wROC nLEK_ATTAK_BEI yUON xMUOY xPII yRAM zc-BEI zeUON zdMUOY zdPII xSON
nMUOY_KOET sROC nPATHAMASAT oII_KOET rROC oRAM_KOET sROC r-BEI_KOET wROC tUON_KOET xROC sMUOY_KOET
xROC sPII_KOET wROC nTUTEYASAT gVOWEL_INHERENT_AA wQ mSIGN_AA sE sI sU rE rI sE sI rOE sO rU sA sU
rY sA sY cOJKI_ABBREVIATION_SIGN hDANDA iOUBLE_DANDA oSECTION_MARK hLETTER_A pA pI pU oBA pBA pHA
oCA pHA oDA pDA qDA qHA pHA oE oGA pGA pHA oHA oI oJA pJA oKA pHA oLA pLA oMA oNA pGA pNA pYA oO oPA
pHA oRA oSA oTA pHA pTA qHA oU oVA oYA hSECTION_MARK iIGN_ANUSVARA mNUKTA mSHADDA nUKUN mVIRAMA
hVOWEL_SIGN_AA tI tU sE sI tI sO sU hWORD_SEPARATOR cUDAWADI_DIGIT_EIGHT qFIVE rOUR qNINE qONE
qSEVEN rIX qTHREE rWO qZERO kLETTER_A sA sI sU rBA sBA sHA rCA sHA rDA sDA tDA tHA sHA rE rGA sGA
sHA rHA rI sI rJA sHA sJA rKA sHA rLA rMA rNA sGA sNA sYA rO rPA sHA rRA sRA rSA sHA rTA sHA sTA tHA
rU sU rVA rYA kSIGN_ANUSVARA pNUKTA pVIRAMA kVOWEL_SIGN_AA wI wU vE vI wI vO vU wU bIMONO cP_SIGN
cSS e_MARK eING_CAT_FACE_WITH_CLOSED_EYES iFACE m_WITH_CLOSED_EYES sSMILING_EYES cTE cWIFRUIT
bNEELING_PERSON cOT bOALA cREAN_STANDARD_SYMBOL bRONOS"

def namesWithL : String := "
aL_B_BAR_SYMBOL bAB_COAT dEL cCROSSE_STICK_AND_BALL cDDER dY_BEETLE cNGUAGE_TAG cO_CANCELLATION_MARK
eDIGIT_EIGHT kFIVE lOUR kNINE kONE kSEVEN lIX kTHREE lWO kZERO eELLIPSIS eHO_MO hNO eKO_LA
eLETTER_BO lCO lDO lFO_FAY pON oSUNG oTAM lHO_SUNG oTAM lKHMU_GO qNYO nO_SUNG pTAM mO lLO n_LING
pOOT lMO lNGO mO mYO lO lPALI_BHA qCHA qDDA sHA rHA qGHA qJHA qLLA qNNA rYA qTTA sHA mHO_SUNG pTAM
mO lRO lSANSKRIT_SHA vSA mO_SUNG oTAM lTHO_SUNG pTAM mO lWO lYO eNIGGAHITA eSEMIVOWEL_SIGN_LO tNYO
fIGN_PALI_VIRAMA eTONE_MAI_CATAWA nEK nTHO oI eVOWEL_SIGN_A qA qI qM qY pE qI pI qI pMAI_KAN uON pO
pU qU pY qY cRGE_BLUE_CIRCLE lDIAMOND lSQUARE hROWN_CIRCLE mSQUARE gCIRCLE gDOWN_TACK gGREEN_CIRCLE
mSQUARE gLEFT_TRIANGLE_OPERATOR gONE_DOT_OVER_TWO_DOTS_PUNCTUATION kRING_OVER_TWO_RINGS_PUNCTUATION
hRANGE_CIRCLE nDIAMOND nSQUARE gPURPLE_CIRCLE nSQUARE gRED_CIRCLE kSQUARE
gTRIPLE_VERTICAL_BAR_OPERATOR hWO_DOTS_OVER_ONE_DOT_PUNCTUATION kRINGS_OVER_ONE_RING_PUNCTUATION
gUP_TACK gYELLOW_CIRCLE nSQUARE fR_THAN l_OR_EQUAL_TO dI_SIGN cST_QUARTER_MOON r_SYMBOL sWITH_FACE
cTIN_CAPITAL_LETTER_A w_WITH_ACUTE zdBREVE zi_AND_ACUTE znDOT_BELOW znGRAVE znHOOK_ABOVE znTILDE
zdCARON zeIRCUMFLEX zn_AND_ACUTE zsDOT_BELOW zsGRAVE zsHOOK_ABOVE zsTILDE zdDIAERESIS zm_AND_MACRON
zeOT_ABOVE zm_AND_MACRON zhBELOW zfUBLE_GRAVE zdGRAVE zdHOOK_ABOVE zdINVERTED_BREVE zdMACRON
zdOGONEK zdRING_ABOVE zn_AND_ACUTE ziBELOW zdSTROKE zdTILDE wA wE x_WITH_ACUTE zeMACRON wFRICAN_D
wLPHA wNGLICANA_W wO wU wV x_WITH_HORIZONTAL_BAR wY vB w_WITH_DOT_ABOVE zhBELOW zdFLOURISH zdHOOK
zdLINE_BELOW zdSTROKE zdTOPBAR wETA wROKEN_L vC w_WITH_ACUTE zdBAR zdCARON zeEDILLA zk_AND_ACUTE
zeIRCUMFLEX zdDOT_ABOVE zdHOOK zdPALATAL_HOOK zdSTROKE wHI wLOSED_INSULAR_G wON wUATRILLO
zf_WITH_COMMA vD w_WITH_CARON zeEDILLA zeIRCUMFLEX_BELOW zdDOT_ABOVE zhBELOW zdHOOK zdLINE_BELOW
zdSHORT_STROKE_OVERLAY zeMALL_LETTER_Z zr_WITH_CARON zeTROKE zdTOPBAR wZ x_WITH_CARON vE
w_WITH_ACUTE zdBREVE zdCARON zeEDILLA zk_AND_BREVE zeIRCUMFLEX zn_AND_ACUTE zsDOT_BELOW zsGRAVE
zsHOOK_ABOVE zsTILDE zoBELOW zdDIAERESIS zeOT_ABOVE zhBELOW zfUBLE_GRAVE zdGRAVE zdHOOK_ABOVE
zdINVERTED_BREVE zdMACRON zj_AND_ACUTE zoGRAVE zdOGONEK zdSTROKE zdTILDE zi_BELOW wGYPTOLOGICAL_AIN
zlLEF wNG wSH wT xH wZH y_REVERSED zWITH_CARON vF w_WITH_DOT_ABOVE zdHOOK zdSTROKE vG w_WITH_ACUTE
zdBREVE zdCARON zeEDILLA zeIRCUMFLEX zdDOT_ABOVE zdHOOK zdMACRON zdOBLIQUE_STROKE zdSTROKE wAMMA wHA
wLOTTAL_A zeI zeSTOP zeU vH w_WITH_BREVE_BELOW zdCARON zeEDILLA zeIRCUMFLEX zdDESCENDER zeIAERESIS
zeOT_ABOVE zhBELOW zdHOOK zdSTROKE wALF_H wENG wWAIR vI w_WITH_ACUTE zdBREVE zdCARON zeIRCUMFLEX
zdDIAERESIS zm_AND_ACUTE zeOT_ABOVE zhBELOW zfUBLE_GRAVE zdGRAVE zdHOOK_ABOVE zdINVERTED_BREVE
zdMACRON zdOGONEK zdSTROKE zdTILDE zi_BELOW wNSULAR_D zeF zeG zeR zeS zeT wOTA wS vJ
w_WITH_CIRCUMFLEX zeROSSED-TAIL zdSTROKE vK w_WITH_ACUTE zdCARON zeEDILLA zdDESCENDER
zeIAGONAL_STROKE zeOT_BELOW zdHOOK zdLINE_BELOW zdOBLIQUE_STROKE zdSTROKE zj_AND_DIAGONAL_STROKE vL
w_WITH_ACUTE zdBAR zeELT zdCARON zeEDILLA zeIRCUMFLEX_BELOW zdDOT_BELOW zm_AND_MACRON zfUBLE_BAR
zdHIGH_STROKE zdLINE_BELOW zdMIDDLE_DOT zkTILDE zdSMALL_LETTER_J zeTROKE wJ vM w_WITH_ACUTE
zdDOT_ABOVE zhBELOW zdHOOK wIDDLE_SCOTS_S zc-WELSH_LL zjV vN w_WITH_ACUTE zdCARON zeEDILLA
zeIRCUMFLEX_BELOW zdDESCENDER zeOT_ABOVE zhBELOW zdGRAVE zdLEFT_HOOK zeINE_BELOW zeONG_RIGHT_LEG
zdOBLIQUE_STROKE zdSMALL_LETTER_J zdTILDE wJ vO w_WITH_ACUTE zdBREVE zdCARON zeIRCUMFLEX
zn_AND_ACUTE zsDOT_BELOW zsGRAVE zsHOOK_ABOVE zsTILDE zdDIAERESIS zm_AND_MACRON zeOT_ABOVE
zm_AND_MACRON zhBELOW zfUBLE_ACUTE zkGRAVE zdGRAVE zdHOOK_ABOVE zfRN zh_AND_ACUTE zmDOT_BELOW
zmGRAVE zmHOOK_ABOVE zmTILDE zdINVERTED_BREVE zdLONG_STROKE_OVERLAY zfOP zdMACRON zj_AND_ACUTE
zoGRAVE zeIDDLE_TILDE zdOGONEK zj_AND_MACRON zdSTROKE zj_AND_ACUTE zdTILDE zi_AND_ACUTE znDIAERESIS
znMACRON wI wLD_POLISH_O wMEGA wO wPEN_E zbO wU vP w_WITH_ACUTE zdDOT_ABOVE zdFLOURISH zdHOOK
zdSQUIRREL_TAIL zeTROKE zj_THROUGH_DESCENDER vQ w_WITH_DIAGONAL_STROKE zdSTROKE_THROUGH_DESCENDER vR
w_ROTUNDA xWITH_ACUTE zdCARON zeEDILLA zdDOT_ABOVE zhBELOW zm_AND_MACRON zfUBLE_GRAVE
zdINVERTED_BREVE zdLINE_BELOW zdOBLIQUE_STROKE zdSTROKE zdTAIL wEVERSED_C_WITH_DOT zfE zfHALF_H
zfOPEN_E wUM_ROTUNDA vS w_WITH_ACUTE zi_AND_DOT_ABOVE zdCARON zi_AND_DOT_ABOVE zeEDILLA zeIRCUMFLEX
zeOMMA_BELOW zdDOT_ABOVE zhBELOW zm_AND_DOT_ABOVE zdHOOK zdOBLIQUE_STROKE zdSHORT_STROKE_OVERLAY
zeWASH_TAIL wALTILLO wCHWA xRIPT_G wHARP_S wIGMOID_S wMALL_CAPITAL_I zcQ_WITH_HOOK_TAIL vT
w_WITH_CARON zeEDILLA zeIRCUMFLEX_BELOW zeOMMA_BELOW zdDIAGONAL_STROKE zeOT_ABOVE zhBELOW zdHOOK
zdLINE_BELOW zdRETROFLEX_HOOK zdSTROKE wHORN zb_WITH_STROKE zn_THROUGH_DESCENDER wONE_FIVE zbSIX
zbTWO wRESILLO wURNED_A zeLPHA zdH zdINSULAR_G zdK zdL zdM zdT zdV wZ vU w_BAR xWITH_ACUTE zdBREVE
zdCARON zeIRCUMFLEX zn_BELOW zdDIAERESIS zm_AND_ACUTE zrCARON zrGRAVE zrMACRON znBELOW zeOT_BELOW
zfUBLE_ACUTE zkGRAVE zdGRAVE zdHOOK_ABOVE zfRN zh_AND_ACUTE zmDOT_BELOW zmGRAVE zmHOOK_ABOVE zmTILDE
zdINVERTED_BREVE zdMACRON zj_AND_DIAERESIS zdOGONEK zdRING_ABOVE zdSTROKE zdTILDE zi_AND_ACUTE
zjBELOW wPSILON vV w_WITH_DIAGONAL_STROKE zeOT_BELOW zdHOOK zdTILDE wEND wISIGOTHIC_Z wOLAPUK_AE
zeOE zeUE wY vW w_WITH_ACUTE zdCIRCUMFLEX zdDIAERESIS zeOT_ABOVE zhBELOW zdGRAVE zdHOOK wYNN vX
w_WITH_DIAERESIS zeOT_ABOVE vY w_WITH_ACUTE zdCIRCUMFLEX zdDIAERESIS zeOT_ABOVE zhBELOW zdGRAVE
zdHOOK zh_ABOVE zdLOOP zdMACRON zdSTROKE zdTILDE wOGH vZ w_WITH_ACUTE zdCARON zeIRCUMFLEX
zdDESCENDER zeOT_ABOVE zhBELOW zdHOOK zdLINE_BELOW zdPALATAL_HOOK zdSTROKE zeWASH_TAIL pIGATURE_IJ
xOE hROSS gEPIGRAPHIC_LETTER_ARCHAIC_M yI_LONGA zNVERTED_M yREVERSED_F ziP ySIDEWAYS_I gLETTER_AIN
oLVEOLAR_CLICK nBIDENTAL_PERCUSSIVE pLABIAL_CLICK wPERCUSSIVE nDENTAL_CLICK nGLOTTAL_STOP
z_WITH_STROKE nINVERTED_GLOTTAL_STOP zj_WITH_CURL zpSTROKE nLATERAL_CLICK
nPHARYNGEAL_VOICED_FRICATIVE nRETROFLEX_CLICK zd_WITH_RETROFLEX_HOOK pVERSED_ESH_LOOP
wGLOTTAL_STOP_WITH_STROKE nSINOLOGICAL_DOT oMALL_CAPITAL_A zdE zcB zdARRED_B zcC zcD zcE zdTH zdZH
zcF zcG zd_WITH_HOOK zcH zcI zdNVERTED_R zcJ zcK zcL zd_WITH_BELT zjSTROKE zcM zcN zcO zdE zdPEN_O
zdU zcP zcQ zcR zd_WITH_RIGHT_LEG zdEVERSED_N zlR zdUM zcS zcT zdURNED_E zjG zjK zjM zjR zcU zcV zcW
zcY zcZ oTRETCHED_C y_WITH_CURL nTWO_WITH_STROKE nVOICED_LARYNGEAL_SPIRANT nWYNN nYR
gSMALL_CAPITAL_LETTER_I_WITH_STROKE zcU_WITH_STROKE mLETTER_A u_REVERSED-SCHWA vWITH_ACUTE zbBREVE
zg_AND_ACUTE zlDOT_BELOW zlGRAVE zlHOOK_ABOVE zlTILDE zbCARON zcIRCUMFLEX zl_AND_ACUTE zqDOT_BELOW
zqGRAVE zqHOOK_ABOVE zqTILDE zbDIAERESIS zk_AND_MACRON zcOT_ABOVE zk_AND_MACRON zfBELOW zdUBLE_GRAVE
zbGRAVE zbHOOK_ABOVE zbINVERTED_BREVE zbMACRON zbOGONEK zbRETROFLEX_HOOK zcIGHT_HALF_RING zdNG_ABOVE
zl_AND_ACUTE zgBELOW zbSTROKE zbTILDE uA uE v_WITH_ACUTE zcMACRON uLPHA y_WITH_RETROFLEX_HOOK
uNGLICANA_W uO uU uV v_WITH_HORIZONTAL_BAR uY tB u_WITH_DOT_ABOVE zfBELOW zbFLOURISH zbHOOK
zbLINE_BELOW zbMIDDLE_TILDE zbPALATAL_HOOK zbSTROKE zbTOPBAR uARRED_ALPHA zbE zbO vSELINE_ESH uETA
uLACKLETTER_E zgO zh_WITH_STROKE uOTTOM_HALF_O uROKEN_L tC u_WITH_ACUTE zbBAR zbCARON zcEDILLA
zi_AND_ACUTE zcIRCUMFLEX zcURL zbDOT_ABOVE zbHOOK zbPALATAL_HOOK zbRETROFLEX_HOOK zbSTROKE uHI
w_WITH_LOW_LEFT_SERIF zhRIGHT_RING uLOSED_INSULAR_G zbOMEGA zcPEN_E zbREVERSED_OPEN_E uON uUATRILLO
zd_WITH_COMMA tD u_WITH_CARON zcEDILLA zcIRCUMFLEX_BELOW zcURL zbDOT_ABOVE zfBELOW zbHOOK
zf_AND_TAIL zbLINE_BELOW zbMIDDLE_TILDE zbPALATAL_HOOK zbSHORT_STROKE_OVERLAY zcTROKE zbTAIL zcOPBAR
uB_DIGRAPH uELTA vZH_DIGRAPH zg_WITH_PALATAL_HOOK zmRETROFLEX_HOOK uOTLESS_I zcJ zd_WITH_STROKE
zp_AND_HOOK vUBLE_R zc_WITH_CROSSED-TAIL zbTHORN zbWYNN uUM uZ v_DIGRAPH ze_WITH_CURL
zkRETROFLEX_HOOK wWITH_CARON tE u_WITH_ACUTE zbBREVE zbCARON zcEDILLA zi_AND_BREVE zcIRCUMFLEX
zl_AND_ACUTE zqDOT_BELOW zqGRAVE zqHOOK_ABOVE zqTILDE zmBELOW zbDIAERESIS zcOT_ABOVE zfBELOW
zdUBLE_GRAVE zbFLOURISH zbGRAVE zbHOOK_ABOVE zbINVERTED_BREVE zbMACRON zh_AND_ACUTE zmGRAVE zbNOTCH
zbOGONEK zbRETROFLEX_HOOK zbSTROKE zbTILDE zg_BELOW uGYPTOLOGICAL_AIN zjLEF uNG w_WITH_CROSSED-TAIL
zdPALATAL_HOOK uSH w_WITH_CURL zdDOUBLE_BAR zn_AND_CURL zdPALATAL_HOOK zdRETROFLEX_HOOK uT vH uZH
w_REVERSED xWITH_CARON zeURL zdPALATAL_HOOK zdRETROFLEX_HOOK zdTAIL tF u_WITH_DOT_ABOVE zbHOOK
zbMIDDLE_TILDE zbPALATAL_HOOK zbSTROKE uENG_DIGRAPH zg_WITH_TRILL tG u_WITH_ACUTE zbBREVE zbCARON
zcEDILLA zcIRCUMFLEX zbDOT_ABOVE zbHOOK zbMACRON zbOBLIQUE_STROKE zbPALATAL_HOOK zbSTROKE uAMMA uHA
uLOTTAL_A zcI zcSTOP zcU tH u_WITH_BREVE_BELOW zbCARON zcEDILLA zcIRCUMFLEX zbDESCENDER zcIAERESIS
zcOT_ABOVE zfBELOW zbHOOK zbLINE_BELOW zbPALATAL_HOOK zbSTROKE uALF_H uENG x_WITH_HOOK uV tI
u_WITH_ACUTE zbBREVE zbCARON zcIRCUMFLEX zbDIAERESIS zk_AND_ACUTE zcOT_BELOW zdUBLE_GRAVE zbGRAVE
zbHOOK_ABOVE zbINVERTED_BREVE zbMACRON zbOGONEK zbRETROFLEX_HOOK zbSTROKE zh_AND_RETROFLEX_HOOK
zbTILDE zg_BELOW uNSULAR_D zcF zcG zcR zcS zcT vVERTED_ALPHA zdOE uOTA x_WITH_STROKE wIFIED_E uS tJ
u_WITH_CARON zcIRCUMFLEX zcROSSED-TAIL zbSTROKE tK u_WITH_ACUTE zbCARON zcEDILLA zbDESCENDER
zcIAGONAL_STROKE zcOT_BELOW zbHOOK zbLINE_BELOW zbOBLIQUE_STROKE zbPALATAL_HOOK zbSTROKE
zh_AND_DIAGONAL_STROKE uRA tL u_WITH_ACUTE zbBAR zcELT zf_AND_PALATAL_HOOK zbCARON zcEDILLA
zcIRCUMFLEX_BELOW zcURL zbDOT_BELOW zk_AND_MACRON zdUBLE_BAR ziMIDDLE_TILDE zbFISHHOOK zbHIGH_STROKE
zbINVERTED_LAZY_S zbLINE_BELOW zbMIDDLE_DOT ziRING ziTILDE zbPALATAL_HOOK zbRETROFLEX_HOOK
zp_AND_BELT zbSTROKE uAMBDA_WITH_STROKE uENIS_F vZH x_WITH_RETROFLEX_HOOK uJ uONG_S
z_WITH_DIAGONAL_STROKE zhOT_ABOVE zgHIGH_STROKE uS_DIGRAPH uUM uZ_DIGRAPH tM u_WITH_ACUTE
zbCROSSED-TAIL zbDOT_ABOVE zfBELOW zbHOOK zbMIDDLE_TILDE zbPALATAL_HOOK uIDDLE_SCOTS_S z-WELSH_LL
zhV uUM tN u_PRECEDED_BY_APOSTROPHE vWITH_ACUTE zbCARON zcEDILLA zcIRCUMFLEX_BELOW zcROSSED-TAIL
zcURL zbDESCENDER zcOT_ABOVE zfBELOW zbGRAVE zbLEFT_HOOK zcINE_BELOW zcONG_RIGHT_LEG zbMIDDLE_TILDE
zbOBLIQUE_STROKE zbPALATAL_HOOK zbRETROFLEX_HOOK zbTILDE uJ uUM tO u_WITH_ACUTE zbBREVE zbCARON
zcIRCUMFLEX zl_AND_ACUTE zqDOT_BELOW zqGRAVE zqHOOK_ABOVE zqTILDE zbDIAERESIS zk_AND_MACRON
zcOT_ABOVE zk_AND_MACRON zfBELOW zdUBLE_ACUTE ziGRAVE zbGRAVE zbHOOK_ABOVE zdRN zf_AND_ACUTE
zkDOT_BELOW zkGRAVE zkHOOK_ABOVE zkTILDE zbINVERTED_BREVE zbLONG_STROKE_OVERLAY zdOP zdW_RING_INSIDE
zbMACRON zh_AND_ACUTE zmGRAVE zbOGONEK zh_AND_MACRON zbRETROFLEX_HOOK zbSTROKE zh_AND_ACUTE zbTILDE
zg_AND_ACUTE zlDIAERESIS zlMACRON uI uLD_POLISH_O uMEGA uO uPEN_E z_WITH_RETROFLEX_HOOK yO
z_WITH_RETROFLEX_HOOK zgSTROKE zE uU tP u_WITH_ACUTE zbDOT_ABOVE zbFLOURISH zbHOOK zbMIDDLE_TILDE
zbPALATAL_HOOK zbSQUIRREL_TAIL zcTROKE zh_THROUGH_DESCENDER uHI tQ u_WITH_DIAGONAL_STROKE zbHOOK
zf_TAIL zbSTROKE_THROUGH_DESCENDER uP_DIGRAPH tR u_ROTUNDA vWITH_ACUTE zbCARON zcEDILLA
zcROSSED-TAIL zbDOT_ABOVE zfBELOW zk_AND_MACRON zdUBLE_GRAVE zbFISHHOOK zj_AND_MIDDLE_TILDE
zoPALATAL_HOOK zbINVERTED_BREVE zbLINE_BELOW zcONG_LEG zbMIDDLE_TILDE zbOBLIQUE_STROKE
zbPALATAL_HOOK zbSTROKE zbTAIL zOUT_HANDLE uAMS_HORN uEVERSED_C ze_WITH_DOT zdE zeNG zdHALF_H zdK
zdOPEN_E zj_WITH_HOOK zpRETROFLEX_HOOK zdR_WITH_FISHHOOK zdSCRIPT_G uUM w_ROTUNDA tS u_WITH_ACUTE
zg_AND_DOT_ABOVE zbCARON zg_AND_DOT_ABOVE zcEDILLA zcIRCUMFLEX zcOMMA_BELOW zcURL zbDOT_ABOVE
zfBELOW zk_AND_DOT_ABOVE zbHOOK zbMIDDLE_TILDE zbOBLIQUE_STROKE zbPALATAL_HOOK
zbSHORT_STROKE_OVERLAY zcWASH_TAIL uAKHA_YAT vLTILLO uCHWA y_WITH_HOOK zfRETROFLEX_HOOK vRIPT_G
zc_WITH_CROSSED-TAIL zbR zc_WITH_RING uHARP_S uIDEWAYS_DIAERESIZED_U zdO ze_WITH_STROKE zePEN_O
zdTURNED_M zdU vGMOID_S uQUAT_REVERSED_ESH uTIRRUP_R tT u_WITH_CARON zcEDILLA zcIRCUMFLEX_BELOW
zcOMMA_BELOW zcURL zbDIAERESIS zeGONAL_STROKE zcOT_ABOVE zfBELOW zbHOOK zf_AND_RETROFLEX_HOOK
zbLINE_BELOW zbMIDDLE_TILDE zbPALATAL_HOOK zbRETROFLEX_HOOK zbSTROKE uAILLESS_PHI
uC_DIGRAPH_WITH_CURL uESH_DIGRAPH zg_WITH_PALATAL_HOOK zmRETROFLEX_HOOK uH_WITH_STRIKETHROUGH vORN
y_WITH_STROKE zl_THROUGH_DESCENDER uONE_FIVE ySIX yTWO vP_HALF_O uRESILLO uS_DIGRAPH
ze_WITH_RETROFLEX_HOOK uUM vRNED_A zcE zcLPHA zbDELTA zbE zbG zbH zc_WITH_FISHHOOK zq_AND_TAIL zbI
zcNSULAR_G zbK zbL zbM zc_WITH_LONG_LEG zbO_OPEN-O zj_WITH_STROKE zcE zd_WITH_HORIZONTAL_STROKE
zjSTROKE zcPEN_E zbR zc_WITH_HOOK ziLONG_LEG zq_AND_RETROFLEX_HOOK ziMIDDLE_TILDE ziPALATAL_HOOK
ziTAIL zbT zc_WITH_CURL zbUI zbV zbW zbY zc_WITH_BELT uZ tU u_BAR y_WITH_SHORT_RIGHT_LEG vWITH_ACUTE
zbBREVE zbCARON zcIRCUMFLEX zl_BELOW zbDIAERESIS zk_AND_ACUTE zpCARON zpGRAVE zpMACRON zlBELOW
zcOT_BELOW zdUBLE_ACUTE ziGRAVE zbGRAVE zbHOOK_ABOVE zdRN zf_AND_ACUTE zkDOT_BELOW zkGRAVE
zkHOOK_ABOVE zkTILDE zbINVERTED_BREVE zbLEFT_HOOK zbMACRON zh_AND_DIAERESIS zbOGONEK
zbRETROFLEX_HOOK zcING_ABOVE zbSHORT_RIGHT_LEG zcTROKE zbTILDE zg_AND_ACUTE zhBELOW uE uI uM uO
uPSILON zb_WITH_STROKE tV u_WITH_CURL zbDIAGONAL_STROKE zcOT_BELOW zbHOOK zbPALATAL_HOOK
zbRIGHT_HOOK zbTILDE uEND uISIGOTHIC_Z uOLAPUK_AE zcOE zcUE uY tW u_WITH_ACUTE zbCIRCUMFLEX
zbDIAERESIS zcOT_ABOVE zfBELOW zbGRAVE zbHOOK zbRING_ABOVE tX u_WITH_DIAERESIS zcOT_ABOVE
zbLONG_LEFT_LEG zo_AND_LOW_RIGHT_RING zpWITH_SERIF zdW_RIGHT_RING zbPALATAL_HOOK tY u_WITH_ACUTE
zbCIRCUMFLEX zbDIAERESIS zcOT_ABOVE zfBELOW zbGRAVE zbHOOK zf_ABOVE zbLOOP zbMACRON zbRING_ABOVE
zbSHORT_RIGHT_LEG zcTROKE zbTILDE uOGH tZ u_WITH_ACUTE zbCARON zcIRCUMFLEX zcURL zbDESCENDER
zcOT_ABOVE zfBELOW zbHOOK zbLINE_BELOW zbMIDDLE_TILDE zbPALATAL_HOOK zbRETROFLEX_HOOK zbSTROKE
zcWASH_TAIL nIGATURE_FF xI xL wI wL vIJ vLONG_S_T vOE vST hUBSCRIPT_SMALL_LETTER_A zeE zeH zeI zeJ
zeK zeL zeM zeN zeO zeP zeR zeS zfCHWA zeT zeU zeV zeX bEAF_FLUTTERING_IN_WIND eY_GREEN cDGER
cFT_AND_LOWER_AND_RIGHT_TRIANGULAR_THREE_QUARTERS_BLOCK pONE_EIGHTH_BLOCK jRIGHT_DOUBLE_TURNSTILE
pTACK qRIANGULAR_HALF_BLOCK jUPPER_AND_RIGHT_TRIANGULAR_THREE_QUARTERS_BLOCK pONE_EIGHTH_BLOCK
hGER_BUBBLE iLE_BRACKET s_WITH_DOT gRC_LESS-THAN_BRACKET hROW_WITH_CIRCLED_PLUS qSMALL_CIRCLE
fBARB_DOWN_RIGHT_BARB_DOWN_HARPOON zbUP_HARPOON kUP_RIGHT_BARB_DOWN_HARPOON yUP_HARPOON
gLACK_LENTICULAR_BRACKET lTORTOISE_SHELL_BRACKET fCEILING gLOSED_ENTRY gORNER_BRACKET gURLY_BRACKET
s_LOWER_HOOK tMIDDLE_PIECE tUPPER_HOOK fDOTTED_SUBSTITUTION_BRACKET hUBLE_ANGLE_BRACKET mPARENTHESIS
mQUOTATION_MARK mWIGGLY_FENCE fFISH_TAIL hVE_EIGHTHS_BLOCK gLOOR fHALF_BLACK_CIRCLE qSTAR mOCK
kCIRCLE q_WITH_DOT wFOUR_DOTS wTHREE_DOTS xWO_DOTS kFOLDER
kINVERSE_MEDIUM_SHADE_AND_RIGHT_HALF_BLOCK kMEDIUM_SHADE kRUNNING_MAN hND_TELEPHONE_RECEIVER
fLOW_PARAPHRASE_BRACKET gUGGAGE fMULTIMAP fNORMAL_FACTOR_SEMIDIRECT_PRODUCT fONE_EIGHTH_BLOCK
jQUARTER_BLOCK gUTER_JOIN fPARENTHESIS q_EXTENSION rLOWER_HOOK rUPPER_HOOK fRAISED_OMISSION_BRACKET
gIGHT_ARROW q_THROUGH_SMALL_CIRCLE rWITH_DOUBLE_VERTICAL_STROKE wSTROKE wVERTICAL_STROKE
lBLACK_ARROW lDOUBLE_ARROW x_WITH_STROKE zeVERTICAL_STROKE lOPEN-HEADED_ARROW lSANS-SERIF_ARROW
lTRIANGLE-HEADED_ARROW lWAVE_ARROW mHITE_ARROW fS-SHAPED_BAG_DELIMITER gEMIDIRECT_PRODUCT
hVEN_EIGHTHS_BLOCK gIDEWAYS_U_BRACKET hNGLE_QUOTATION_MARK gPEECH_BUBBLE gQUARE_BRACKET t_EXTENSION
uLOWER_CORNER uUPPER_CORNER uWITH_DOUBLE_STROKE zQUILL zSTROKE zTICK_IN_BOTTOM_CORNER ziTOP_CORNER
zUNDERBAR gUBSTITUTION_BRACKET fTACK gHIRD_WHITE_RIGHT_POINTING_INDEX hOUGHT_BUBBLE
hREE_EIGHTHS_BLOCK lQUARTERS_BLOCK gORTOISE_SHELL_BRACKET gRANSPOSITION_BRACKET
hIANGLE_BESIDE_VERTICAL_BAR lULAR_ONE_QUARTER_BLOCK fVERTICAL_BAR_WITH_QUILL pOX_LINE
fWHITE_CORNER_BRACKET mURLY_BRACKET lLENTICULAR_BRACKET lPARENTHESIS lSQUARE_BRACKET
lTORTOISE_SHELL_BRACKET gIGGLY_FENCE gRITING_HAND e-FACING_ARMENIAN_ETERNITY_SIGN mFIST mSVASTI_SIGN
x_WITH_DOTS fHANDED_INTERLACED_PENTAGRAM fPOINTING_ANGLE_BRACKET oCURVED_ANGLE_BRACKET
oDOUBLE_ANGLE_QUOTATION_MARK oMAGNIFYING_GLASS fSHADED_WHITE_RIGHTWARDS_ARROW
gIDE_ARC_ANTICLOCKWISE_ARROW fTO-RIGHT_EMBEDDING oISOLATE oMARK oOVERRIDE eWARDS_ARROW
p_ABOVE_ALMOST_EQUAL_TO wREVERSE_ALMOST_EQUAL_TO zfTILDE_OPERATOR wSHORT_RIGHTWARDS_ARROW
wTILDE_OPERATOR rND_UPPER_AND_LOWER_ONE_EIGHTH_BLOCK qFROM_BAR y_TO_BLACK_DIAMOND
qOVER_RIGHTWARDS_ARROW qTHROUGH_LESS-THAN ySUBSET yX rO_BAR w_OVER_RIGHTWARDS_ARROW_TO_BAR
uLACK_DIAMOND qWITH_DOTTED_STEM xUBLE_VERTICAL_STROKE vEQUILATERAL_ARROWHEAD vHOOK
vLARGE_TRIANGLE_ARROWHEAD wOOP vMEDIUM_TRIANGLE_ARROWHEAD vNOTCHED_TAIL vPLUS_BELOW
vSMALL_EQUILATERAL_ARROWHEAD zcTRIANGLE_ARROWHEAD wTROKE vTAIL z_WITH_DOUBLE_VERTICAL_STROKE
zgVERTICAL_STROKE wIP_DOWNWARDS zUPWARDS vVERTICAL_STROKE p-TAIL kBACK-TILTED_SHADOWED_WHITE_ARROW
lLACK_ARROW qCIRCLED_WHITE_ARROW lOTTOM-SHADED_WHITE_ARROW kCOMPRESSED_ARROW kDASHED_ARROW
lOUBLE_ARROW w_FROM_BAR xWITH_STROKE zdVERTICAL_STROKE w-TAIL rDASH_ARROW kFINGER-POST_ARROW
lRONT-TILTED_SHADOWED_WHITE_ARROW kHAND mRPOON_OVER_RIGHTWARDS_HARPOON
sWITH_BARB_DOWN_ABOVE_RIGHTWARDS_HARPOON_WITH_BARB_DOWN ziBELOW_LONG_DASH ziFROM_BAR ziTO_BAR
zhWARDS zdUP_ABOVE_LEFTWARDS_HARPOON_WITH_BARB_DOWN znONG_DASH zmRIGHTWARDS_HARPOON_WITH_BARB_UP
zgFROM_BAR zgTO_BAR zfWARDS lEAVY_ARROW qCOMPRESSED_ARROW kLEFT-SHADED_WHITE_ARROW
kOPEN-HEADED_ARROW kPAIRED_ARROWS kQUADRUPLE_ARROW kRIGHT-SHADED_WHITE_ARROW lOCKET
kSANS-SERIF_ARROW lQUARED_ARROW nIGGLE_ARROW kTOP_SHADED_WHITE_ARROW lRIANGLE_ARROWHEAD
s-HEADED_ARROW zg_OVER_RIGHTWARDS_TRIANGLE-HEADED_ARROW zhTO_BAR zhWITH_BOLD_SHAFT
zmDOUBLE_HORIZONTAL_STROKE ztVERTICAL_STROKE zmHEAVY_SHAFT zmLONG_TIP_DOWNWARDS zvUPWARDS
zmMEDIUM_SHAFT zmNARROW_SHAFT zmVERY_HEAVY_SHAFT zbDASHED_ARROW zbPAIRED_ARROWS nPLE_ARROW
rDASH_ARROW lWO_HEADED_ARROW n-HEADED_ARROW_FROM_BAR zcWITH_DOUBLE_VERTICAL_STROKE zhTAIL
zl_WITH_DOUBLE_VERTICAL_STROKE zrVERTICAL_STROKE ziRIANGLE_ARROWHEADS zhVERTICAL_STROKE
vTRIPLE_DASH_ARROW kWAVE_ARROW lHITE_ARROW v_WITHIN_TRIANGLE_ARROWHEAD cG cMON cO dPARD
cPCHA_CONSONANT_SIGN_K xANG wL wM wN xYIN-DO wP wR wT hDIGIT_EIGHT nFIVE oOUR nNINE nONE nSEVEN oIX
nTHREE oWO nZERO hLETTER_A oBA pLA oCA pHA oDA pDA pZA oFA pLA oGA pLA oHA pLA oJA oKA pHA pLA oLA
oMA pLA oNA pGA pYA oPA pHA pLA oRA oSA pHA oTA pHA pSA qHA pTA qHA oVA oWA oYA hPUNCTUATION_CER-WA
tNYET_THYOOM_TA-ROL tTA-ROL uSHOOK z_CER-WA hSIGN_NUKTA mRAN iUBJOINED_LETTER_RA yYA hVOWEL_SIGN_AA
sE sI sO tO sU tU cSS-THAN_ABOVE_DOUBLE-LINE_EQUAL_ABOVE_GREATER-THAN
qGREATER-THAN_ABOVE_DOUBLE-LINE_EQUAL qLEFTWARDS_ARROW qSIMILAR_ABOVE_GREATER-THAN yOR_EQUAL
rLANTED_EQUAL_ABOVE_GREATER-THAN_ABOVE_SLANTED_EQUAL lND_NOT_APPROXIMATE oSINGLE-LINE_NOT_EQUAL_TO
kBUT_NOT_EQUAL_TO vIVALENT_TO kCLOSED_BY_CURVE z_ABOVE_SLANTED_EQUAL kEQUAL_TO_OR_GREATER-THAN
kOR_APPROXIMATE nEQUAL_TO qIVALENT_TO nGREATER-THAN nSLANTED_EQUAL_TO ze_WITH_DOT_ABOVE zt_RIGHT
zoINSIDE lVER_EQUAL_TO kSIGN kWITH_CIRCLE_INSIDE pDOT pQUESTION_MARK_ABOVE cVEL_SLIDER bF bIBRA
cGATURE_OPEN_ET_ORNAMENT dHT_CHECK_MARK gEIGHT_SPOKED_ASTERISK gFIVE_POINTED_BLACK_STAR
lSPOKED_ASTERISK hOUR_POINTED_BLACK_CUSP zSTAR gGREEK_CROSS gLEFT_TORTOISE_SHELL_BRACKET_ORNAMENT
gRAIL hIGHT_TORTOISE_SHELL_BRACKET_ORNAMENT gSALTIRE hHADE hIX_SPOKED_ASTERISK
gTHREE_POINTED_BLACK_STAR hWELVE_POINTED_BLACK_STAR gVERTICAL_BAR gWHITE_SQUARE fNING j_MOOD
o_BUBBLE cMBU_DIGIT_EIGHT mFIVE nOUR mNINE mONE mSEVEN nIX mTHREE nWO mZERO gEXCLAMATION_MARK
gLETTER_BA oHA nCA oHA nDA oHA nGA oHA oYAN nHA nJA oHA nKA oHA nLA nMA nNA oGA nPA oHA nRA nSA oHA
oSA nTA oHA oRA nWA nYA pN gQUESTION_MARK gSIGN_KEMPHRENG lLOO lMUKPHRENG lSA-I
hMALL_LETTER_ANUSVARA tKA tLA tMA tNA uGA tPA tRA tTA hUBJOINED_LETTER_RA xWA xYA gVOWEL_SIGN_A sI
sU rE sE rI rO sO rU l-CARRIER_LETTER dITED_LIABILITY_SIGN cNE_FEED
fINTEGRATION_NOT_INCLUDING_THE_POLE rWITH_RECTANGULAR_PATH_AROUND_POLE
wSEMICIRCULAR_PATH_AROUND_POLE fSEPARATOR fTABULATION p_SET eAR_A_SIGN_A028B p100-102 q20B q31C p301
r2 r3 r4 r5 r6 r7 r8 r9A sB sC q10 r1 r2 r3A sB sC r4 r5 r6 r7 r8 r9 q20 r1 r2 r3 r4 r5 r6 r7 r8 r9
q30 r1 r2 r3 r4 r5 r6 r7 r8 r9 q40 r1 r2 r3 r4 r5 r6 r7 r8 r9 q50 r1 r2 r3 r4 r5 r6 r7 r8 r9 q60 r1
r2 r3 r4 r5 r6 r7 r8 r9 q70 r1 p400-VAS r1-VAS r2-VAS r3-VAS r4-VAS r5-VAS r6-VAS r7-VAS r8-VAS
r9-VAS q10-VAS r1-VAS r2-VAS r3-VAS r4-VAS r5-VAS r6-VAS r7-VAS r8-VAS p501 r2 r3 r4 r5 r6 r8 r9 q10
r1 r2 r3 r5 r6 q20 r1 r3 r4 r5 r6 r7 r8 r9 q30 r1 r2 r4 r5 r6 r7 r8 r9 q40 r1 r2 r5 r7 r8 r9 q50 r1
r2 r3 r4 r5 r6 r7 r9 q63 r4 r5 r6 r8 r9 q70 r1 r2 r3 r4 r5 r6 r7 r8 r9 q80 r1 r2 r3 r4 r5 r6 r7 r8
r9 q91 r2 r4 r5 r6 r8 p600 r1 r2 r3 r4 r6 r8 r9 q10 r1 r2 r3 r4 r5 r6 r7 r8 r9 q20 r1 r2 r3 r4 r6 r7
r8 r9 q34 r7 r8 q40 r2 r3 r4 r5 r6 r8 r9 q51 r2 r3 r4 r5 r6 r7 r8 r9 q60 r1 r2 r3 r4 p701_A r2_B
r3_D r4_E r5_F r6_H r7_J r8_K r9_L s-2_L2 t3_L3 t4_L4 t6_L6 q10_W r1_X r2_Y r3_OMEGA r4_ABB r5_BB
r7_DD q26_EYYY q32_JE p800 r1 r2 r3 r4 r5 r6 r7 pB001 s2 s3 s4 s5 s6 s7 s8 s9 r10 s1 s3 s6 s7 r20 s1
tF tM s2 tF tM s3 tM s4 s6 s7 s8 s9 r30 s1 s4 s7 s8 s9 r40 s1 s4 s5 s6 s7 s8 s9 r50 s1 s3 s4 s5 s6
s7 s8 s9 r60 s1 s5 s6 s7 s9 r70 s3 s4 s6 s7 s8 s9 r80 s1 s2 s5 s6 s7 q118 r20 s2 s3 r31A tB r64 r71
r80 s8 r91 hB_IDEOGRAM_B100_MAN v2_WOMAN v4_DEER v5_EQUID wF_MARE wM_STALLION v6F_EWE wM_RAM
v7F_SHE-GOAT wM_HE-GOAT v8F_SOW wM_BOAR v9F_COW wM_BULL u20_WHEAT v1_BARLEY v2_OLIVE v3_SPICE
v5_CYPERUS u30_OIL v1_WINE v2 u40_BRONZE v1_GOLD v2 v5_WOOL v6 u50 v1_HORN v2 v3 v4 v7 v8 v9_CLOTH
u60 v1 v2_GARMENT v3_ARMOUR v4 v5 v6 v7 v8 v9 u70 v1 v2 v3_MONTH v4 v6_TREE v7 v8 v9 u80 v1 v2 v3 v4
v5 v9 u90 v1_HELMET t220_FOOTSTOOL v5_BATHTUB u30_SPEAR v1_ARROW v2 v3_SWORD v4 v6
u40_WHEELED_CHARIOT v1_CHARIOT v2_CHARIOT_FRAME v3_WHEEL v5 v6 v8 v9 u51 v2 v3 v4_DART v5 v6 v7 v8
v9 sVESSEL_B155 zb200 zd1 zd2 zd3 zd4 zd5 zd6 zd7 zd8 zd9 zc10 zd1 zd2 zd3 zd4 zd5 zd6 zd7 zd8 zd9
zc21 zd2 zd6 zd7 zd8 zd9 zc50 zb305 jMONOGRAM_B127_KAPO v8_KANAKO u33_AREPA v5_MERI u56_TURO2
t247_DIPTE jSYLLABLE_B001_DA v2_RO v3_PA v4_TE v5_TO v6_NA v7_DI v8_A v9_SE u10_U v1_PO v2_SO v3_ME
v4_DO v5_MO v6_QA v7_ZA u20_ZO v1_QI v3_MU v4_NE v5_A2 v6_RU v7_RE v8_I v9_PU2 u30_NI v1_SA v2_QO
v3_RA3 v6_JO v7_TI v8_E v9_PI u40_WI v1_SI v2_WO v3_A3 v4_KE v5_DE v6_JE v8_NWA u50_PU v1_DU v2_NO
v3_RI v4_WA v5_NU v7_JA v8_SU v9_TA u60_RA v1_O v2_PTE v5_JU v6_TA2 v7_KI v8_RO2 v9_TU u70_KO v1_DWE
v2_PE v3_MI v4_ZE v5_WE v6_RA2 v7_KA v8_QE u80_MA v1_KU v5_AU v7_TWE u90_DWO v1_TWO lMBOL_B018 t9
s22 s34 s47 t9 s56 s63 t4 s79 s82 t3 t6 t9 dK_SYMBOL eED_PAPERCLIPS cON_FACE cPS eTICK cRA_SIGN
cSU_LETTER_A nE mBA mCA nHA mDA nZA mE nU mFA mGA nHA mHA nHA mI mJA mKA nHA mLA mMA mNA nGA mO nE
mPA nHA mSA nHA mTA nHA nONE_MYA_BO vCYA vJEU vNA vTI rNA_PO nSA oHA mU nE nH mWA mXA mYA nHA mZA
nHA fPUNCTUATION_COMMA rFULL_STOP cVRE_TOURNOIS_SIGN cZARD bLAMA bOBSTER cCK e_WITH_INK_PEN
eING-SHIFT_ONE oZERO cGICAL_AND l_WITH_DOT_ABOVE tUBLE_OVERBAR yUNDERBAR rHORIZONTAL_DASH
rMIDDLE_STEM rUNDERBAR iOR k_OVERLAPPING_LOGICAL_AND lWITH_DOT_ABOVE sUBLE_OVERBAR xUNDERBAR
qHORIZONTAL_DASH qMIDDLE_STEM cLLIPOP cNG_DASH_FROM_LEFT_MEMBER_OF_DOUBLE_VERTICAL gIVISION gRUM
fLEFT_RIGHT_ARROW qDOUBLE_ARROW kTACK jWARDS_ARROW u_FROM_BAR pDOUBLE_ARROW zc_FROM_BAR
pSQUIGGLE_ARROW fRIGHT_TACK kWARDS_ARROW v_FROM_BAR qDOUBLE_ARROW zd_FROM_BAR qSQUIGGLE_ARROW
cTION_BOTTLE dUS cUDLY_CRYING_FACE cVE_HOTEL fLETTER cW_ASTERISK eBATTERY fRIGHTNESS_SYMBOL
eDOUBLE_PRIME_QUOTATION_MARK eKAVYKA k_WITH_DOT eLINE dER_BLADE_SCISSORS gFIVE_EIGHTHS_BLOCK
gHALF_BLOCK lCIRCLE lINVERSE_WHITE_CIRCLE lMEDIUM_SHADE gLEFT_BALLPOINT_PEN
mLOCK_DIAGONAL_LOWER_MIDDLE_LEFT_TO_LOWER_CENTRE zzdRIGHT zbUPPER_CENTRE_TO_LOWER_MIDDLE_RIGHT
zxRIGHT zrUPPER_MIDDLE_RIGHT zhLEFT_TO_LOWER_CENTRE zvMIDDLE_RIGHT zpUPPER_MIDDLE_RIGHT
zhMIDDLE_LEFT_TO_LOWER_CENTRE zzdMIDDLE_RIGHT zzdRIGHT lCRAYON lFOUNTAIN_PEN lPAINTBRUSH mENCIL
lQUADRANT_CIRCULAR_ARC lSEMICIRCULAR_ANTICLOCKWISE_ARROW lTRIANGLE rULAR_MEDIUM_SHADE
gONE_EIGHTH_BLOCK kQUARTER_BLOCK gRIGHT_BLOCK_DIAGONAL_LOWER_CENTRE_TO_LOWER_MIDDLE_RIGHT
zsUPPER_MIDDLE_RIGHT zyRIGHT ziLEFT_TO_LOWER_MIDDLE_RIGHT zqUPPER_CENTRE zwMIDDLE_RIGHT
ziMIDDLE_LEFT_TO_UPPER_CENTRE zzeMIDDLE_RIGHT zzeRIGHT zcUPPER_MIDDLE_LEFT_TO_UPPER_CENTRE zzeRIGHT
mCORNER_WITH_DOT mDROP-SHADOWED_WHITE_SQUARE mPENCIL mQUADRANT_CIRCULAR_ARC
mSEMICIRCULAR_CLOCKWISE_ARROW nHADOWED_WHITE_CIRCLE zcSQUARE mTRIANGLE sULAR_MEDIUM_SHADE
gSEVEN_EIGHTHS_BLOCK gTHREE_EIGHTHS_BLOCK mQUARTERS_BLOCK hRIANGULAR_ONE_QUARTER_BLOCK cZENGE
h_DIVIDED_BY_HORIZONTAL_RULE bRE cI cM cO bUGGAGE cNGS bYCIAN_LETTER_A pN oB pH oD oE pN oG oH oI oJ
oK pK oL oM pM oN pN oP oQ oR oS oT pH pT oU oW oX oZ cDIAN_LETTER_A pN oB oC oD oE pN oF oG oI oK
oL pY oM oN pN oO oQ oR oS pS oT pT oU oV oY hTRIANGULAR_MARK cING_FACE"

def namesWithM : String := "
aMACRON cGE dIC_WAND dNET cHAJANI_ABBREVIATION_SIGN jLETTER_A qBA rHA qCA rHA qDA rDA sHA rHA qE qGA
rHA qHA qI qJA rHA qKA rHA qLA qMA qNA rNA rYA qO qPA rHA qRA rRA qSA qTA rHA rTA sHA qU qVA
kIGATURE_SHRI jSECTION_MARK kIGN_NUKTA dJONG_TILE_AUTUMN nBACK pMBOO nCHRYSANTHEMUM nEAST_WIND
oIGHT_OF_BAMBOOS wCHARACTERS xIRCLES nFIVE_OF_BAMBOOS vCHARACTERS wIRCLES oOUR_OF_BAMBOOS
vCHARACTERS wIRCLES nGREEN_DRAGON nJOKER nNINE_OF_BAMBOOS vCHARACTERS wIRCLES oORTH_WIND
nONE_OF_BAMBOOS uCHARACTERS vIRCLES oRCHID nPLUM nRED_DRAGON nSEVEN_OF_BAMBOOS wCHARACTERS xIRCLES
oIX_OF_BAMBOOS uCHARACTERS vIRCLES oOUTH_WIND oPRING oUMMER nTHREE_OF_BAMBOOS wCHARACTERS xIRCLES
oWO_OF_BAMBOOS uCHARACTERS vIRCLES nWEST_WIND oHITE_DRAGON oINTER cKASAR_ANGKA iEND_OF_SECTION
iLETTER_A pBA pCA pDA pGA pJA pKA pLA pMA pNA qGA qYA pPA pRA pSA pTA pVA pYA iPASSIMBANG
iVOWEL_SIGN_E tI tO tU cLAYALAM_AU_LENGTH_MARK kDATE_MARK lIGIT_EIGHT qFIVE rOUR qNINE qONE qSEVEN
rIX qTHREE rWO qZERO kFRACTION_ONE_EIGHTH xFIFTH yORTIETH xHALF xONE-HUNDRED-AND-SIXTIETH xQUARTER
xSIXTEENTH xTENTH yWENTIETH tTHREE_EIGHTIETHS zQUARTERS zSIXTEENTHS zTWENTIETHS kLETTER_A sA sI
sRCHAIC_II sU rBA sHA rCA sHA tILLU_K yL zL zbL yM yN zN yRR yY rDA sDA tHA sHA sOT_REPH rE sE rGA
sHA rHA rI sI rJA sHA rKA sHA rLA sLA tLA rMA rNA sGA sNA tNA sYA rO sO rPA sHA rRA sRA rSA sHA sSA
rTA sHA sTA tHA tTA rU sU rVA sEDIC_ANUSVARA sOCALIC_L zbL zR zbR rYA kNUMBER_ONE_HUNDRED vTHOUSAND
rTEN kSIGN_ANUSVARA qVAGRAHA pCANDRABINDU qIRCULAR_VIRAMA qOMBINING_ANUSVARA_ABOVE pPARA
pVERTICAL_BAR_VIRAMA qIRAMA rSARGA kVOWEL_SIGN_AA wI wU vE wE vI wI vO wO vU wU vVOCALIC_L zfL zeR
zfR dE_AND_FEMALE_SIGN fSIGN fWITH_STROKE_AND_MALE_AND_FEMALE_SIGN rSIGN dTESE_CROSS cMMOTH cN
d_AND_WOMAN_HOLDING_HANDS eDANCING eIN_BUSINESS_SUIT_LEVITATING hTUXEDO eWITH_GUA_PI_MAO jTURBAN
dAT_SIGN dDAIC_AFFRICATION_MARK iGEMINATION_MARK iLETTER_AB qD qG qH qIN qK rSA qL qM qN qP qQ qR qS
rH rZ qT rT qZ pDUSHENNA pHALQA pIN qT pKAD pUSHENNA iPUNCTUATION iVOCALIZATION_MARK dGO
dICHAEAN_ABBREVIATION_MARK_ABOVE zeBELOW lLETTER_AAYIN tLEPH tYIN sBETH tHETH sDALETH tHAMEDH sFE
sGHIMEL tIMEL sHE uTH sJAYIN tHAYIN sKAPH tHAPH sLAMEDH sMEM sNUN sPE sQHOPH tOPH sRESH sSADHE uMEKH
tHIN tSHIN sTAW tETH tHAMEDH sWAW sXAPH tOPH sYODH sZAYIN tHAYIN lNUMBER_FIVE sONE v_HUNDRED sTEN
tWENTY lPUNCTUATION_DOT zb_WITHIN_DOT zUBLE_DOT_WITHIN_DOT xFLEURON xLINE_FILLER xSTAR xTWO_DOTS
lSIGN_UD dS_SHOE dTELPIECE_CLOCK dUAL_WHEELCHAIR cP_SYMBOL_FOR_LIGHTHOUSE dLE_LEAF cRCHEN_HEAD_MARK
iLETTER_-A pA pBA pCA qHA pDA qZA pGA pHA pJA pKA qHA pLA pMA pNA qGA qYA pPA qHA pRA pSA qHA pTA
qHA qSA rHA pWA pYA pZA qHA iMARK_SHAD iSIGN_ANUSVARA nCANDRABINDU jUBJOINED_LETTER_A zBA zCA zbHA
zDA zbZA zGA zHA zJA zKA zbHA zLA zMA zNA zbGA zbYA zPA zbHA zRA zSA zbHA zTA zbHA zbSA zcHA zWA zYA
zZA zbHA iVOWEL_SIGN_AA tE tI tO tU dRIAGE_SYMBOL dTIAL_ARTS_UNIFORM cSARAM_GONDI_DIGIT_EIGHT uFIVE
vOUR uNINE uONE uSEVEN vIX uTHREE vWO uZERO oLETTER_A wA wI wU vBA wHA vCA wHA vDA wDA xHA wHA vE
vGA wHA vHA vI wI vJA wHA wNYA vKA wHA wSSA vLA wLA vMA vNA wGA wNA wYA vO vPA wHA vRA vSA wHA wSA
vTA wHA wRA wTA xHA vU wU vVA vYA oRA-KARA pEPHA oSIGN_ANUSVARA tCANDRA tHALANTA tNUKTA tVISARGA
oVIRAMA pOWEL_SIGN_AA zbI zbU zE zI zbI zO zU zbU zVOCALIC_R dCULINE_ORDINAL_INDICATOR
dK_WORK_SYMBOL dU_MARK cTE_DRINK dHEMATICAL_BOLD_CAPITAL_A zcLPHA zbB zcETA zbC zcHI zbD zcELTA
zcIGAMMA zbE zcPSILON zcTA zbF zbG zcAMMA zbH zbI zcOTA zbJ zbK zcAPPA zbL zcAMDA zbM zcU zbN zcU
zbO zcMEGA zdICRON zbP zcHI zcI zcSI zbQ zbR zcHO zbS zcIGMA zbT zcAU zcHETA zg_SYMBOL zbU zcPSILON
zbV zbW zbX zcI zbY zbZ zcETA sDIGIT_EIGHT yFIVE zOUR yNINE yONE ySEVEN zIX yTHREE zWO yZERO
sEPSILON_SYMBOL sFRAKTUR_CAPITAL_A zjB zjC zjD zjE zjF zjG zjH zjI zjJ zjK zjL zjM zjN zjO zjP zjQ
zjR zjS zjT zjU zjV zjW zjX zjY zjZ zbSMALL_A zhB zhC zhD zhE zhF zhG zhH zhI zhJ zhK zhL zhM zhN
zhO zhP zhQ zhR zhS zhT zhU zhV zhW zhX zhY zhZ sITALIC_CAPITAL_A zjLPHA ziB zjETA ziC zjHI ziD
zjELTA ziE zjPSILON zjTA ziF ziG zjAMMA ziH ziI zjOTA ziJ ziK zjAPPA ziL zjAMDA ziM zjU ziN zjU ziO
zjMEGA zkICRON ziP zjHI zjI zjSI ziQ ziR zjHO ziS zjIGMA ziT zjAU zjHETA zn_SYMBOL ziU zjPSILON ziV
ziW ziX zjI ziY ziZ zjETA zEPSILON_SYMBOL zKAPPA_SYMBOL zNABLA zPARTIAL_DIFFERENTIAL zbHI_SYMBOL
zbI_SYMBOL zRHO_SYMBOL zSMALL_A zhLPHA zgB zhETA zgC zhHI zgD zhELTA zgE zhPSILON zhTA zgF
zhINAL_SIGMA zgG zhAMMA zgH zgI zhOTA zgJ zgK zhAPPA zgL zhAMDA zgM zhU zgN zhU zgO zhMEGA ziICRON
zgP zhHI zhI zhSI zgQ zgR zhHO zgS zhIGMA zgT zhAU zhHETA zgU zhPSILON zgV zgW zgX zhI zgY zgZ zhETA
zTHETA_SYMBOL sKAPPA_SYMBOL sNABLA sPARTIAL_DIFFERENTIAL tHI_SYMBOL tI_SYMBOL sRHO_SYMBOL
sSCRIPT_CAPITAL_A ziB ziC ziD ziE ziF ziG ziH ziI ziJ ziK ziL ziM ziN ziO ziP ziQ ziR ziS ziT ziU
ziV ziW ziX ziY ziZ zSMALL_A zgB zgC zgD zgE zgF zgG zgH zgI zgJ zgK zgL zgM zgN zgO zgP zgQ zgR zgS
zgT zgU zgV zgW zgX zgY zgZ tMALL_A zLPHA yB zETA yC zHI yD zELTA zIGAMMA yE zPSILON zTA yF
zINAL_SIGMA yG zAMMA yH yI zOTA yJ yK zAPPA yL zAMDA yM zU yN zU yO zMEGA zbICRON yP zHI zI zSI yQ
yR zHO yS zIGMA yT zAU zHETA yU zPSILON yV yW yX zI yY yZ zETA sTHETA_SYMBOL
nDOUBLE-STRUCK_CAPITAL_A zkB zkD zkE zkF zkG zkI zkJ zkK zkL zkM zkO zkS zkT zkU zkV zkW zkX zkY
zcDIGIT_EIGHT ziFIVE zjOUR ziNINE ziONE ziSEVEN zjIX ziTHREE zjWO ziZERO zcSMALL_A ziB ziC ziD ziE
ziF ziG ziH ziI ziJ ziK ziL ziM ziN ziO ziP ziQ ziR ziS ziT ziU ziV ziW ziX ziY ziZ
nFALLING_DIAGONAL oRAKTUR_CAPITAL_A zeB zeD zeE zeF zeG zeJ zeK zeL zeM zeN zeO zeP zeQ zeS zeT zeU
zeV zeW zeX zeY vSMALL_A zcB zcC zcD zcE zcF zcG zcH zcI zcJ zcK zcL zcM zcN zcO zcP zcQ zcR zcS zcT
zcU zcV zcW zcX zcY zcZ nITALIC_CAPITAL_A zeLPHA zdB zeETA zdC zeHI zdD zeELTA zdE zePSILON zeTA zdF
zdG zeAMMA zdH zdI zeOTA zdJ zdK zeAPPA zdL zeAMDA zdM zeU zdN zeU zdO zeMEGA zfICRON zdP zeHI zeI
zeSI zdQ zdR zeHO zdS zeIGMA zdT zeAU zeHETA zi_SYMBOL zdU zePSILON zdV zdW zdX zeI zdY zdZ zeETA
uEPSILON_SYMBOL uKAPPA_SYMBOL uNABLA uPARTIAL_DIFFERENTIAL vHI_SYMBOL vI_SYMBOL uRHO_SYMBOL uSMALL_A
zcLPHA zbB zcETA zbC zcHI zbD zcELTA zcOTLESS_I zjJ zbE zcPSILON zcTA zbF zcINAL_SIGMA zbG zcAMMA
zbI zcOTA zbJ zbK zcAPPA zbL zcAMDA zbM zcU zbN zcU zbO zcMEGA zdICRON zbP zcHI zcI zcSI zbQ zbR
zcHO zbS zcIGMA zbT zcAU zcHETA zbU zcPSILON zbV zbW zbX zcI zbY zbZ zcETA uTHETA_SYMBOL
nLEFT_ANGLE_BRACKET sDOUBLE_ANGLE_BRACKET sFLATTENED_PARENTHESIS sWHITE_SQUARE_BRACKET
yTORTOISE_SHELL_BRACKET nMONOSPACE_CAPITAL_A zgB zgC zgD zgE zgF zgG zgH zgI zgJ zgK zgL zgM zgN zgO
zgP zgQ zgR zgS zgT zgU zgV zgW zgX zgY zgZ xDIGIT_EIGHT zeFIVE zfOUR zeNINE zeONE zeSEVEN zfIX
zeTHREE zfWO zeZERO xSMALL_A zeB zeC zeD zeE zeF zeG zeH zeI zeJ zeK zeL zeM zeN zeO zeP zeQ zeR zeS
zeT zeU zeV zeW zeX zeY zeZ nRIGHT_ANGLE_BRACKET tDOUBLE_ANGLE_BRACKET tFLATTENED_PARENTHESIS
tWHITE_SQUARE_BRACKET zTORTOISE_SHELL_BRACKET pSING_DIAGONAL nSANS-SERIF_BOLD_CAPITAL_A znLPHA zmB
znETA zmC znHI zmD znELTA zmE znPSILON znTA zmF zmG znAMMA zmH zmI znOTA zmJ zmK znAPPA zmL znAMDA
zmM znU zmN znU zmO znMEGA zoICRON zmP znHI znI znSI zmQ zmR znHO zmS znIGMA zmT znAU znHETA
zr_SYMBOL zmU znPSILON zmV zmW zmX znI zmY zmZ znETA zeDIGIT_EIGHT zkFIVE zlOUR zkNINE zkONE zkSEVEN
zlIX zkTHREE zlWO zkZERO zeEPSILON_SYMBOL zeITALIC_CAPITAL_A zuLPHA ztB zuETA ztC zuHI ztD zuELTA
ztE zuPSILON zuTA ztF ztG zuAMMA ztH ztI zuOTA ztJ ztK zuAPPA ztL zuAMDA ztM zuU ztN zuU ztO zuMEGA
zvICRON ztP zuHI zuI zuSI ztQ ztR zuHO ztS zuIGMA ztT zuAU zuHETA zy_SYMBOL ztU zuPSILON ztV ztW ztX
zuI ztY ztZ zuETA zlEPSILON_SYMBOL zlKAPPA_SYMBOL zlNABLA zlPARTIAL_DIFFERENTIAL zmHI_SYMBOL
zmI_SYMBOL zlRHO_SYMBOL zlSMALL_A zsLPHA zrB zsETA zrC zsHI zrD zsELTA zrE zsPSILON zsTA zrF
zsINAL_SIGMA zrG zsAMMA zrH zrI zsOTA zrJ zrK zsAPPA zrL zsAMDA zrM zsU zrN zsU zrO zsMEGA ztICRON
zrP zsHI zsI zsSI zrQ zrR zsHO zrS zsIGMA zrT zsAU zsHETA zrU zsPSILON zrV zrW zrX zsI zrY zrZ zsETA
zlTHETA_SYMBOL zeKAPPA_SYMBOL zeNABLA zePARTIAL_DIFFERENTIAL zfHI_SYMBOL zfI_SYMBOL zeRHO_SYMBOL
zeSMALL_A zlLPHA zkB zlETA zkC zlHI zkD zlELTA zkE zlPSILON zlTA zkF zlINAL_SIGMA zkG zlAMMA zkH zkI
zlOTA zkJ zkK zlAPPA zkL zlAMDA zkM zlU zkN zlU zkO zlMEGA zmICRON zkP zlHI zlI zlSI zkQ zkR zlHO
zkS zlIGMA zkT zlAU zlHETA zkU zlPSILON zkV zkW zkX zlI zkY zkZ zlETA zeTHETA_SYMBOL yCAPITAL_A zhB
zhC zhD zhE zhF zhG zhH zhI zhJ zhK zhL zhM zhN zhO zhP zhQ zhR zhS zhT zhU zhV zhW zhX zhY zhZ
yDIGIT_EIGHT zfFIVE zgOUR zfNINE zfONE zfSEVEN zgIX zfTHREE zgWO zfZERO yITALIC_CAPITAL_A zoB zoC
zoD zoE zoF zoG zoH zoI zoJ zoK zoL zoM zoN zoO zoP zoQ zoR zoS zoT zoU zoV zoW zoX zoY zoZ
zgSMALL_A zmB zmC zmD zmE zmF zmG zmH zmI zmJ zmK zmL zmM zmN zmO zmP zmQ zmR zmS zmT zmU zmV zmW
zmX zmY zmZ ySMALL_A zfB zfC zfD zfE zfF zfG zfH zfI zfJ zfK zfL zfM zfN zfO zfP zfQ zfR zfS zfT zfU
zfV zfW zfX zfY zfZ oCRIPT_CAPITAL_A zdC zdD zdG zdJ zdK zdN zdO zdP zdQ zdS zdT zdU zdV zdW zdX zdY
zdZ uSMALL_A zbB zbC zbD zbF zbH zbI zbJ zbK zbL zbM zbN zbP zbQ zbR zbS zbT zbU zbV zbW zbX zbY zbZ
cXIMIZE cYAN_NUMERAL_EIGHT tEEN pLEVEN oFIFTEEN qVE pOUR sTEEN oNINE sTEEN oONE oSEVEN tTEEN pIX
rTEEN oTEN pHIRTEEN qREE pWELVE qO oZERO bEASURED_ANGLE o_OPENING_LEFT
pWITH_OPEN_ARM_ENDING_IN_ARROW_POINTING_DOWN_AND_LEFT zznRIGHT zzeLEFT_AND_DOWN zznUP
zzeRIGHT_AND_DOWN zzoUP zzeUP_AND_LEFT zzlRIGHT jBY jRIGHT_ANGLE_WITH_DOT dT_ON_BONE cCHANICAL_ARM
lLEG cDEFAIDRIN_CAPITAL_LETTER_A zdI zdTIU zcB zcC zcD zcE zcF zcG zcH zdP zcI zcJ zcK zdP zcL zcM
zcN zdG zdY zcO zdE zcP zcQ zcR zcS zcT zcU zcV zcW zcX zcY zdU zcZ nOMMA mDIGIT_EIGHT sFIVE tOUR
sNINE sONE v_ALTERNATE_FORM sSEVEN tIX sTHREE x_ALTERNATE_FORM tWO v_ALTERNATE_FORM sZERO
mEXCLAMATION_OH mFULL_STOP mNUMBER_EIGHTEEN uLEVEN tFIFTEEN uOURTEEN tNINETEEN tSEVENTEEN uIXTEEN
tTEN uHIRTEEN uWELVE mSMALL_LETTER_A zbI zbTIU zB zC zD zE zF zG zH zbP zI zJ zK zbP zL zM zN zbG
zbY zO zbE zP zQ zR zS zT zU zV zW zX zY zbU zZ nYMBOL_AIVA dIEVAL_COMMA jEXCLAMATION_MARK
jQUESTION_MARK eUM_BLACK_CIRCLE iOLD_WHITE_CIRCLE hEIGHT_POINTED_BLACK_STAR nSPOKED_ASTERISK
hFIVE_SPOKED_ASTERISK iLATTENED_LEFT_PARENTHESIS_ORNAMENT rRIGHT_PARENTHESIS_ORNAMENT
iOUR_POINTED_BLACK_STAR uPINWHEEL_STAR hGREEK_CROSS hLEFT_CURLY_BRACKET_ORNAMENT
mPARENTHESIS_ORNAMENT l-POINTING_ANGLE_BRACKET_ORNAMENT hMATHEMATICAL_SPACE
hRIGHT_CURLY_BRACKET_ORNAMENT nPARENTHESIS_ORNAMENT m-POINTING_ANGLE_BRACKET_ORNAMENT hSALTIRE iHADE
iIX_POINTED_BLACK_STAR lSPOKED_ASTERISK iMALL_WHITE_CIRCLE hTHREE_POINTED_BLACK_STAR vPINWHEEL_STAR
hVERTICAL_BAR hWHITE_CIRCLE nSQUARE cETEI_MAYEK_AHANG_KHUDAM oNJI oPUN_IYEK nCHEIKHAN tEI
nDIGIT_EIGHT tFIVE uOUR tNINE tONE tSEVEN uIX tTHREE uWO tZERO nLETTER_ATIYA uBA vHAM uCHA wIL uDDA
wHA vHOU vIL uE uGHOU vOK uHUK uI v_LONSUM uJHAM vIL uKHOU vOK x_LONSUM uLAI x_LONSUM uMIT x_LONSUM
uNA w_LONSUM vGOU y_LONSUM vNA vYA uO uPA w_LONSUM vHAM uRAI uSAM vHA vSA uTHOU vIL x_LONSUM vTA wHA
uUN uWAI uYANG oUM_IYEK nSYLLABLE_REPETITION_MARK nVIRAMA oOWEL_SIGN_AAI zbU zNAP zU yCHEINAP yII
zNAP yNUNG yONAP ySOUNAP yUNAP zU yVISARGA yYENAP nWORD_REPETITION_MARK cLON dTING_FACE cMO
cNDE_KIKAKUI_COMBINING_NUMBER_HUNDRED_THOUSANDS znS zgMILLIONS zgTEENS ziN_THOUSANDS zjS zhHOUSANDS
oDIGIT_EIGHT uFIVE vOUR uNINE uONE uSEVEN vIX uTHREE vWO oSYLLABLE_M001_KI zb2_KA zb3_KU zb4_WI
zb5_WA zb6_WU zb7_MIN zb8_MAN zb9_MUN z10_BI zb1_BA zb2_BU zb3_I zb4_A zb5_U zb6_DI zb7_DA zb8_DU
zb9_SI z20_SA zb1_SU zb2_TI zb3_TA zb4_TU zb5_LI zb6_LA zb7_LU zb8_JI zb9_JA z30_JU zb1_YI zb2_YA
zb3_YU zb4_FI zb5_FA zb6_FU zb7_NIN zb8_NAN zb9_NUN z40_HEE zb1_HA zb2_HOO zb3_NGGA zb4_KPEE zb5_WO
zb6_HUAN zb7_MBEE zb8_KO zb9_WVA z50_PU zb1_PE zb2_HEN zb3_HIN zb4_LOO zb5_TE zb6_GBA zb7_NGON
zb8_NYAN zb9_MEN z60_NYON zb1_WVI zb2_MBA zb3_JO zb4_NDO zb5_KEE zb6_PO zb7_NDOO zb8_PI zb9_TO
z70_GBO zb1_GBOO zb2_MBE zb3_LE zb4_KPU zb5_FE zb6_KOO zb7_VO zb8_FEE zb9_SO z80_YE zb1_PEE zb2_NGGU
zb3_HEEI zb4_LEE zb5_VE zb6_LONG_NGGE zb7_HUN zb8_FO zb9_DEE z90_NGGI zb1_TEE zb2_KPA zb3_GBEE
zb4_MON zb5_KE zb6_HE zb7_BE zb8_NYEN zb9_PA y100_E zb1_FAN zb2_POO zb3_BOO zb4_TOO zb5_LONG_MBOO
zb6_LONG_NGGOO zb7_GBE zb8_KPE zb9_YEE z10_LONG_LE zb1_GA zb2_KPOO zb3_JE zb4_WOO zb5_NGGEE zb6_SE
zb7_NEN zb8_WE zb9_NDE z20_NGGO zb1_YO zb2_MBU zb3_NDI zb4_GBI zb5_NDU zb6_WEE zb7_NGGUA zb8_HOOU
zb9_NDA z30_HAN zb1_IN zb2_KPI zb3_FOO zb4_NJOO zb5_IN zb6_SOO zb7_EI zb8_BO zb9_WVE z40_HO zb1_YOO
zb2_LONG_MBO zb3_WEI zb4_VOO zb5_MBI zb6_NGGE zb7_O zb8_GBU zb9_NJEE z50_BEE zb1_VU zb2_NJA zb3_LO
zb4_MUAN zb5_GI zb6_NGGOO zb7_JEE zb8_KPO zb9_NGGAA z60_JOO zb1_LONG_MBE zb2_SEE zb3_EE zb4_NYIN
zb5_OO zb6_GUEI zb7_GUAN zb8_GU zb9_NON z70_NYUN zb1_RA zb2_MBOO zb3_VEE zb4_MBO zb5_LONG_JO zb6_HI
zb7_NGUAN zb8_EN zb9_KUA z80_DOO zb1_DO zb2_VI zb3_LONG_NGGO zb4_NGEN zb5_VA zb6_HU zb7_MBUU
zb8_MBEE zb9_MUEN z90_GEE zb1_NDEE zb2_NJU zb3_HON zb4_WUI zb5_AN zb6_SIA zb7_FUA
dORAH_WITH_NINE_BRANCHES dS_SYMBOL cRCURY dOITIC_CURSIVE_FRACTION_EIGHT_TWELFTHS zcLEVEN_TWELFTHS
zbFIVE_TWELFTHS zcOUR_TWELFTHS zbNINE_TWELFTHS zbONE_HALF zfTWELFTH zbSEVEN_TWELFTHS zcIX_TWELFTHS
zbTEN_TWELFTHS zcHREE_TWELFTHS zcWO_TWELFTHS rLETTER_A zRCHAIC_SA yBA yDA yE yHHA yI yKA zHA yLA yMA
yNA zE yO yPA yQA yRA ySA zE yTA zE zO yWA yYA sOGOGRAM_IMN zbRMT rNUMBER_EIGHT ze_HUNDRED
zm_THOUSAND zfTHOUSAND zeY_THOUSAND yFIFTY ze_THOUSAND zbVE zd_HUNDRED zl_THOUSAND zeTHOUSAND zORTY
ze_THOUSAND zbUR zd_HUNDRED zl_THOUSAND zeTHOUSAND yNINE zd_HUNDRED zl_THOUSAND zeTHOUSAND
zdTY_THOUSAND yONE zc_HUNDRED zk_THOUSAND zdTHOUSAND ySEVEN ze_HUNDRED zm_THOUSAND zfTHOUSAND zeTY
zg_THOUSAND zIX zc_HUNDRED zk_THOUSAND zdTHOUSAND zcTY ze_THOUSAND yTEN zc_THOUSAND zHIRTY
zf_THOUSAND zbREE ze_HUNDRED zm_THOUSAND zfTHOUSAND zWENTY zf_THOUSAND zbO zc_HUNDRED zk_THOUSAND
zdTHOUSAND jHIEROGLYPHIC_LETTER_A zeBA zg-2 zeDA zeE zeHHA zeI zeKA zfHA zeLA zeMA zeNA zg-2 zfE
zg-2 zeO zePA zeQA zeRA zg-2 zeSA zg-2 zfE zeTA zg-2 zfE zg-2 zfO zeWA zeYA wSYMBOL_VIDJ zi-2
dPERSON cSSAGE_WAITING cTRICAL_BREVE jLONG_OVER_SHORT tTWO_SHORTS jPENTASEME jSHORT_OVER_LONG
jTETRASEME kRISEME kWO_SHORTS_JOINED uOVER_LONG eO bIAO_LETTER_AH nRCHAIC_MA uNA vGA uZZA mBA nRI
mDA nDA nLHA pYA nZA oHA oYI oZA mFA mGA nHA oHA mHA nHA mKA mLA nHA oYA nYA mMA nHA mNA oSALIZATION
nGA oHA nHA nNA oHA nYA oHA mPA nLA mQA nGA mREFORMED_TONE-1 zb2 zb4 zb5 zb6 zb8 wSHA nTE mSA nHA
nSA nYI mTA nE nLHA pYA nONE-2 r3 r4 r5 r6 r7 r8 nSA oE oHA oSA nTA mVA nFA mWA mXA mYI_DZHA pKA
pNNA pPA pTA qSA rHA qTA mZA nHA nSA oHA nZA oSA pYA oYA fSIGN_ASPIRATION kCONSONANT_MODIFIER_BAR
kREFORMED_ASPIRATION tVOICING fTONE_ABOVE kBELOW kRIGHT kTOP_RIGHT fVOWEL_SIGN_A rA rE sE rHH rI rN
sG rU qE rA rI rN sG rR sR qI rA sN tG rE rG rI rNG rO sNG rU qN rG qO rER sY rG rO rU qROUNDED_ER
zbR qU rA sN tG rEI rI rNG rOG rU qVW qW rO qY rI rUI cCR_DASH_SYMBOL fON_US_SYMBOL eO_SIGN fBE
fPHONE fSCOPE cDDLE_DOT hTHIRD_WHITE_RIGHT_POINTING_INDEX dLINE_HORIZONTAL_ELLIPSIS cLITARY_HELMET
jMEDAL dKY_WAY dL_SIGN cNIBUS eDISC eMIZE dUS_SIGN k_IN_TRIANGLE lWITH_COMMA_ABOVE qDOT_BELOW
qFALLING_DOTS qRISING_DOTS gTILDE f-OR-PLUS_SIGN dY cRROR g_BALL bMSP bOBILE_PHONE m_OFF
nWITH_RIGHTWARDS_ARROW_AT_LEFT cDELS eRN_PENTATHLON dI_ABBREVIATION_SIGN fDANDA gIGIT_EIGHT lFIVE
mOUR lNINE lONE lSEVEN mIX lTHREE mWO lZERO gOUBLE_DANDA fLETTER_A nA nI nU mBA nHA mCA nHA mDA nDA
oHA nHA mE mGA nHA mHA mI nI mJA nHA mKA nHA mLA nLA mMA mNA nGA nNA nYA mO mPA nHA mRA mSA nHA nSA
mTA nHA nTA oHA mU nU mVA nOCALIC_L vL uR vR mYA fSIGN_ANUSVARA lRDHACANDRA kHUVA kVIRAMA mSARGA
fVOWEL_SIGN_AA rI rU qE qI rI qO qU rU qVOCALIC_L zL yR zR eFIER_BREVE_WITH_INVERTED_BREVE
jLETTER_ACUTE_ACCENT rLVEOLAR_CLICK rPOSTROPHE qBEGIN_HIGH_TONE wLOW_TONE rILABIAL_CLICK qCAPITAL_A
zE yB zARRED_B yC yD yE yF yG yH z_WITH_STROKE yI yJ yK yL yM yN yO zU yP yQ yR zEVERSED_E ziN yT yU
yV yW rENTRED_LEFT_HALF_RING yRIGHT_HALF_RING rHINESE_TONE_YANG_PING zjQU zjRU zjSHANG zfIN_PING
ziQU ziRU ziSHANG rIRCUMFLEX_ACCENT rOLON rROSS_ACCENT rYRILLIC_EN zHARD_SIGN zSOFT_SIGN
qDENTAL_CLICK rOT_HORIZONTAL_BAR uSLASH uVERTICAL_BAR sUBLE_APOSTROPHE xPRIME sWN_ARROWHEAD vTACK
qEND_HIGH_TONE uLOW_TONE rXTRA-HIGH_DOTTED_LEFT-STEM_TONE_BAR zjTONE_BAR zcLEFT-STEM_TONE_BAR
zcTONE_BAR wLOW_DOTTED_LEFT-STEM_TONE_BAR ziTONE_BAR zbLEFT-STEM_TONE_BAR zbTONE_BAR qGEORGIAN_NAR
rLOTTAL_STOP zd_WITH_STROKE rRAVE_ACCENT qHALF_TRIANGULAR_COLON rIGH_DOTTED_LEFT-STEM_TONE_BAR
zdTONE_BAR vLEFT-STEM_TONE_BAR vTONE_BAR qLATERAL_CLICK rEFT_ARROWHEAD vHALF_RING vTACK
rOW_ACUTE_ACCENT uCIRCUMFLEX_ACCENT uDOTTED_LEFT-STEM_TONE_BAR zcTONE_BAR wWN_ARROWHEAD
uGRAVE_ACCENT uINVERTED_EXCLAMATION_MARK uLEFT_ARROW zfHEAD y-STEM_TONE_BAR uMACRON uRIGHT_ARROWHEAD
wNG uTILDE vONE_BAR uUP_ARROWHEAD uVERTICAL_LINE tER_RIGHT_CORNER_ANGLE qMACRON
rID_DOTTED_LEFT-STEM_TONE_BAR zcTONE_BAR uLEFT-STEM_TONE_BAR uTONE_BAR tDLE_DOUBLE_ACUTE_ACCENT
zfGRAVE_ACCENT xGRAVE_ACCENT sNUS_SIGN qOPEN_SHELF qPLUS_SIGN rRIME qRAISED_COLON xDOWN_ARROW
xEXCLAMATION_MARK xINVERTED_EXCLAMATION_MARK xUP_ARROW rETROFLEX_CLICK_WITH_RETROFLEX_HOOK
sVERSED_COMMA zGLOTTAL_STOP zm_WITH_STROKE rHOTIC_HOOK rIGHT_ARROWHEAD wHALF_RING wTACK qSHELF
sORT_EQUALS_SIGN rMALL_A xE xIN xLPHA wB x_WITH_HOOK xARRED_O xETA xOTTOM_HALF_O wC x_WITH_CURL
xAPITAL_AA zfB zfG zg_WITH_HOOK zfH zfI zg_WITH_STROKE zgNVERTED_R zfL zg_WITH_BELT zfN zfOE zfR zfU
zfY xHI xLOSED_OMEGA zeREVERSED_OPEN_E wD x_WITH_HOOK zi_AND_TAIL zeTAIL xELTA yZH_DIGRAPH
xOTLESS_J_WITH_STROKE zs_AND_HOOK xZ_DIGRAPH zh_WITH_CURL znRETROFLEX_HOOK wE xNG xSH xTH xZH wF
xENG_DIGRAPH wG x_WITH_HOOK xAMMA xREEK_GAMMA zdPHI wH x_WITH_HOOK zeSTROKE xENG zb_WITH_HOOK
wI_WITH_STROKE xOTA wJ x_WITH_CROSSED-TAIL wK wL x_WITH_BELT zeINVERTED_LAZY_S zeMIDDLE_TILDE
zePALATAL_HOOK zeRETROFLEX_HOOK zs_AND_BELT xEZH zb_WITH_RETROFLEX_HOOK xIGATURE_OE xS_DIGRAPH
xZ_DIGRAPH wM x_WITH_HOOK wN_WITH_LEFT_HOOK zeRETROFLEX_HOOK wO x_WITH_STROKE xPEN_E zcO wP xHI wQ
wR x_WITH_FISHHOOK zeTAIL xAMS_HORN xEVERSED_E zgGLOTTAL_STOP zgOPEN_E wS x_WITH_CURL zeHOOK xCHWA
yRIPT_G xIDEWAYS_U wT x_WITH_PALATAL_HOOK zeRETROFLEX_HOOK xC_DIGRAPH_WITH_CURL xESH_DIGRAPH xHETA
xOP_HALF_O xS_DIGRAPH zh_WITH_RETROFLEX_HOOK xURNED_A zfE zfLPHA zeH zeI zeM zf_WITH_LONG_LEG
zeOPEN_E zeR zf_WITH_HOOK zlLONG_LEG zt_AND_RETROFLEX_HOOK zeV zeW zeY zf_WITH_BELT wU x_BAR
yWITH_LEFT_HOOK xPSILON wV x_WITH_HOOK zeRIGHT_HOOK wW wX wY wZ x_WITH_CURL zeRETROFLEX_HOOK
rTRESS_AND_HIGH_TONE zcLOW_TONE rUPERSCRIPT_HALF_TRIANGULAR_COLON zdTRIANGULAR_COLON
qTRIANGULAR_COLON rURNED_COMMA qUNASPIRATED rP_ARROWHEAD tTACK rS qVERTICAL_LINE rOICING
qYANG_DEPARTING_TONE_MARK rIN_DEPARTING_TONE_MARK dULO_TWO_SUM cNEY_BAG gWITH_WINGS f-MOUTH_FACE
dGOLIAN_BIRGA p_WITH_DOUBLE_ORNAMENT vORNAMENT kCOLON mMMA kDIGIT_EIGHT qFIVE rOUR qNINE qONE qSEVEN
rIX qTHREE rWO qZERO lOUBLE_BIRGA_WITH_ORNAMENT kELLIPSIS kFOUR_DOTS lREE_VARIATION_SELECTOR_FOUR
zjONE zjTHREE zkWO lULL_STOP kINVERTED_BIRGA y_WITH_DOUBLE_ORNAMENT kLETTER_A sLI_GALI_A zcH
zcNUSVARA_ONE zbBALUDA zbCA zbDA zdGALGA zdMARU zcDA zbHALF_U zgYA zbI zcNVERTED_UBADAMA zbKA zbNGA
zcNA zbPA zcHA zbSSA zbTA zcHREE_BALUDA zcTA zdHA zbUBADAMA zbVISARGA_ONE zbZA zcHA sNG rBA rCHA
u_WITH_TWO_DOTS tI rDA rE sE rFA rGA rHAA rI rJA rKA sHA rLA sHA rMA tNCHU_ALI_GALI_BHA ziCA zjYA
ziDDHA zjHA ziGHA ziJHA ziLHA ziNGA ziSSA ziTA zjTA ziZA zjHA yFA yI yKA yRA yZHA rNA rO sE rPA rQA
rRA rSA sHA sIBE_ANG wCHA wDA wE wFA wGA yA wHA yA wI xY wJA wKA wPA wRAA wSHA wTA xSA wU xE wZA xHA
rTA sODO_ALI_GALI_TA zgZHA xNG wBA wCHA wDA xZA wE wGA yA wHAA wI wJA xIA wKA wLONG_VOWEL_SIGN wMA
wNIA wO xE wPA wQA wTA xSA wU xE wWA wYA sSA rU sE rWA rYA rZA sHI sRA kMANCHU_COMMA rFULL_STOP
kNIRUGU kROTATED_BIRGA x_WITH_DOUBLE_ORNAMENT zeORNAMENT kSIBE_SYLLABLE_BOUNDARY_MARKER lWIRL_BIRGA
v_WITH_DOUBLE_ORNAMENT zcORNAMENT kTODO_SOFT_HYPHEN lRIPLE_BIRGA_WITH_ORNAMENT
lURNED_SWIRL_BIRGA_WITH_DOUBLE_ORNAMENT kVOWEL_SEPARATOR dKEY g_FACE dOGRAM_FOR_EARTH nYANG oIN
eRAIL eSTABLE_SYMBOL cOD_BUBBLE dN_CAKE fVIEWING_CEREMONY cSQUE fITO cTHER_CHRISTMAS dOR_BOAT
gSCOOTER fIZED_WHEELCHAIR fWAY cUNT_FUJI fAIN i_BICYCLIST jCABLEWAY jRAILWAY dSE f_FACE gTRAP dTH
cVIE_CAMERA cYAI bRO_DANDA fIGIT_EIGHT kFIVE lOUR kNINE kONE kSEVEN lIX kTHREE lWO kZERO
fOUBLE_DANDA eLETTER_A lBA lCHU lDA nI lE mA lHAI nO lKEAAE mHAI mO lLA nN lMAEM mIM lNGI mIN lO mL
mO lPA mHI lRI mO lSHI lTA mEK mHEA lWA lYO bUCH_GREATER-THAN fLESS-THAN cLTANI_LETTER_A pBA qHA pCA
qHA pDA qDA rDA rHA qHA pE pGA qHA pHA pI pJA qJA pKA qHA pLA pMA pNA qNA qYA pPA qHA pRA qHA qRA
pSA pTA qHA qTA rHA pU pVA pYA iSECTION_MARK eIMAP fPLE_MUSICAL_NOTES hICATION_SIGN
t_IN_DOUBLE_CIRCLE xLEFT_HALF_CIRCLE xRIGHT_HALF_CIRCLE xTRIANGLE uWITH_DOT_ABOVE zUNDERBAR pX fSET
i_MULTIPLICATION jUNION cSHROOM dIC_FLAT_SIGN gNATURAL_SIGN gSHARP_SIGN fAL_KEYBOARD q_WITH_JACKS
iNOTE iSCORE jYMBOL_ARPEGGIATO_DOWN zbUP pBEGIN_BEAM vPHRASE vSLUR vTIE qRACE tKET rEATH_MARK sVE
tIS v_REST pC_CLEF qAESURA qIRCLE_X_NOTEHEAD qLIMACUS sVIS rUSTER_NOTEHEAD_BLACK zhWHITE qODA
rMBINING_ACCENT zg-STACCATO zbUGMENTATION_DOT zBEND zDOIT zcUBLE_TONGUE zcWN_BOW zFLAG-1 zf2 zf3 zf4
zf5 zcIP zHARMONIC zLOURE zMARCATO zh-STACCATO zRIP zSMEAR zbNAP_PIZZICATO zbPRECHGESANG_STEM
zbTACCATISSIMO zhO zcEM zTENUTO zbREMOLO-1 zi2 zi3 zcIPLE_TONGUE zUP_BOW sMON_TIME qRESCENDO rOIX
qUT_TIME pDA_CAPO rL_SEGNO rMP t_ALL rSHED_BARLINE qECRESCENDO rGREE_SLASH qOUBLE_BARLINE wFLAT
wSHARP qRUM_CLEF-1 z2 pEIGHTH_NOTE wREST qND_BEAM tOF_STIMME tPHRASE tSLUR tTIE pF_CLEF
v_OTTAVA_ALTA zeBASSA qERMATA w_BELOW qINAL_BARLINE sGERED_TREMOLO-1 zh2 zh3 rVE-LINE_STAFF
qLAT_DOWN uUP qORTE rUR-LINE_STAFF uSTRING_FRETBOARD qUSA_BLACK uWHITE pG_CLEF v_OTTAVA_ALTA zeBASSA
qLISSANDO_DOWN zUP qRACE_NOTE_NO_SLASH zbSLASH rEGORIAN_C_CLEF zF_CLEF pHALF_NOTE uPEDAL_MARK uREST
rUPTSTIMME pINVERTED_TURN pKIEVAN_C_CLEF wEIGHTH_NOTE_STEM_DOWN zoUP xND_OF_PIECE wFINAL_NOTE
xLAT_SIGN wHALF_NOTE wQUARTER_NOTE_STEM_DOWN zpUP wRECITATIVE_MARK wWHOLE_NOTE qORON
pLEFT_REPEAT_SIGN qONGA u_IMPERFECTA_REST vPERFECTA_REST pMAXIMA qEZZO qINIMA v_BLACK wREST
qOON_NOTEHEAD_BLACK zeWHITE qULTI_REST uPLE_MEASURE_REST pNATURAL_DOWN xUP qEBENSTIMME
qOTEHEAD_BLACK qULL_NOTEHEAD pONE_HUNDRED_TWENTY-EIGHTH_NOTE zqREST s-LINE_STAFF qRNAMENT_STROKE-1
zh0 zh1 zg2 zg3 zg4 zg5 zg6 zg7 zg8 zg9 qTTAVA_ALTA wBASSA pPARENTHESIS_NOTEHEAD qEDAL_MARK vUP_MARK
rS_SUBPUNCTIS qIANO qLUS_NOTEHEAD qODATUS rRRECTUS y_FLEXUS pQUARTER_NOTE xREST xTONE_FLAT zdSHARP
rINDICESIMA_ALTA zdBASSA pREPEAT_DOTS vED_FIGURE-1 zg2 zg3 rVERSE_FINAL_BARLINE qIGHT_REPEAT_SIGN
rNFORZANDO pSCANDICUS y_FLEXUS qEGNO rMIBREVIS_BLACK zbREST zbWHITE tMINIMA_BLACK zbREST zbWHITE
qHARP_DOWN vUP rORT_BARLINE qINGLE_BARLINE rX-LINE_STAFF tSTRING_FRETBOARD sTEENTH_NOTE zREST
tY-FOURTH_NOTE zdREST qORI qQUARE_B wNOTEHEAD_BLACK zgWHITE qUBITO
pTEMPUS_IMPERFECTUM_CUM_PROLATIONE_IMPERFECTA zzj_DIMINUTION-1 zzv2 zzv3 zyPERFECTA
wPERFECTUM_CUM_PROLATIONE_IMPERFECTA zwPERFECTA zzf_DIMINUTION-1 qHIRTY-SECOND_NOTE zeREST
rREE-LINE_STAFF qORCULUS x_RESUPINUS qR rIANGLE_NOTEHEAD_DOWN_BLACK znWHITE ziLEFT_BLACK znWHITE
ziRIGHT_BLACK zoWHITE ziUP_BLACK zlRIGHT_BLACK zrWHITE zlWHITE x-ROUND_NOTEHEAD_DOWN_BLACK ztWHITE
qURN t_SLASH uUP qWO-LINE_STAFF pVIRGA qOID_NOTEHEAD pWHOLE_NOTE vREST qITH_FINGERNAILS pX_NOTEHEAD
pZ bVS bW bYANMAR_CONSONANT_SIGN_MEDIAL_HA zfRA zfWA zfYA yON_MEDIAL_LA zjMA zjNA xSHAN_MEDIAL_WA
iDIGIT_EIGHT oFIVE pOUR oNINE oONE oSEVEN pIX oTHREE pWO oZERO iLETTER_A qITON_RA qU pBA qHA pCA qHA
pDA qDA rHA qHA pE qASTERN_PWO_KAREN_GHWA ziNNA ziYWA pGA qHA qREAT_SA pHA pI qI pJA qHA pKA qHA
sMTI_CA xHA wDDA yHA xHA wFA wGA wHA xHA wJA xHA wLLA wNA xYA wRA wSA wTTA yHA wXA wZA pLA qLA pMA
qON_BBA vE tE tJHA tNGA pNA qGA qNA rYA qYA pO pPA qHA pRA qUMAI_PALAUNG_FA pSA qGAW_KAREN_SHA qHA
sN_A uBA vHA uCA vHA uDA uFA uGA vHA uHA uJHA uKA vHA uNA vNA vYA uPHA uTHA uZA rWE_PALAUNG_CHA
zdSHA qSA pTA rI_LAING_BA zbHA zDA zbDA zcHA zbHA zFA zGA zbHA zJA zbHA zLLA zNNA zbYA qHA qTA rHA
pU qU pVOCALIC_L yL xR yR pWA qESTERN_PWO_KAREN_PWA ziTHA pYA jOGOGRAM_KHAMTI_HM yOAY yQN
iMODIFIER_LETTER_KHAMTI_REDUPLICATION ySHAN_REDUPLICATION iSHAN_DIGIT_EIGHT tFIVE uOUR tNINE tONE
tSEVEN uIX tTHREE uWO tZERO jIGN_ANUSVARA oSAT nDOT_BELOW nKHAMTI_TONE-1 z3 nLITTLE_SECTION
nPAO_KAREN_TONE nRUMAI_PALAUNG_TONE-5 nSECTION oHAN_COUNCIL_EMPHATIC_TONE zbTONE-2 zg3 sSAW sTONE-2
x3 x5 x6 nTAI_LAING_TONE-2 zd5 nVIRAMA pSARGA nWESTERN_PWO_KAREN_TONE-1 zl2 zl3 zl4 zl5
jYMBOL_AFOREMENTIONED qITON_EXCLAMATION vONE vTWO pCOMPLETED pGENITIVE pLOCATIVE pSHAN_EXCLAMATION
uONE iTAI_LAING_DIGIT_EIGHT yFIVE zOUR yNINE yONE ySEVEN zIX yTHREE zWO yZERO
jONE_MARK_SGAW_KAREN_HATHI zeKE_PHO iVOWEL_SIGN_AA uI vTON_A zbI tE u_ABOVE tGEBA_KAREN_I tI uI
tKAYAH_EE zOE zU tMON_II xO tSGAW_KAREN_EU uHAN_AA yE z_ABOVE yFINAL_Y tTALL_AA tU uU tVOCALIC_L zdL
zcR zdR tWESTERN_PWO_KAREN_EU zmUE"

def namesWithN : String := "
aN-ARY_CIRCLED_DOT_OPERATOR oPLUS_OPERATOR oTIMES_OPERATOR hOPRODUCT gINTERSECTION gLOGICAL_AND oOR
gPRODUCT gSQUARE_INTERSECTION_OPERATOR nUNION_OPERATOR hUMMATION gTIMES_OPERATOR gUNION
l_OPERATOR_WITH_DOT zbPLUS gWHITE_VERTICAL_BAR bABATAEAN_CRUCIFORM_NUMBER_FOUR kLETTER_ALEPH sYIN
rBETH rDALETH rFINAL_ALEPH xBETH xHE xKAPH xLAMEDH xMEM xNUN xSHIN xYODH rGIMEL rHE tTH rKAPH
rLAMEDH rMEM rNUN rPE rQOPH rRESH rSADHE tMEKH sHIN rTAW sETH rWAW rYODH rZAYIN kNUMBER_FIVE sOUR
rONE u_HUNDRED rTEN sHREE sWENTY tO dLA cIL_POLISH dRA_SIGN cK cME_BADGE cND eINAGARI_HEADSTROKE
mLETTER_A uA uI uU tBA uHA tCA uHA tDA uDA vHA uHA tE tGA uHA tHA tI uI tJA uHA tKA uHA tLA uLA tMA
tNA uGA uNA uYA tO tPA uHA tRA uRA tSA uHA uSA tTA uHA uTA vHA tU uU tVA uOCALIC_R zdR tYA
mSIGN_ANUSVARA sVAGRAHA rSIDDHAM rVIRAMA tSARGA mVOWEL_SIGN_AA yI yU xE xI yI xO xPRISHTHAMATRA_E xU
yU xVOCALIC_R zhR cRROW_NO-BREAK_SPACE cTIONAL_DIGIT_SHAPES jPARK cUSEATED_FACE cZAR_AMULET bBH cSP
bECKTIE cGATED_DOUBLE_VERTICAL_BAR_DOUBLE_RIGHT_TURNSTILE fIVE_ACKNOWLEDGE jCIRCLED_DIGIT_ZERO
rLATIN_CAPITAL_LETTER_A znB znC znD znE znF znG znH znI znJ znK znL znM znN znO znP znQ znR znS znT
znU znV znW znX znY znZ rNUMBER_EIGHTEEN zLEVEN yFIFTEEN zOURTEEN yNINETEEN ySEVENTEEN zIXTEEN
yTHIRTEEN zWELVE zcNTY rSQUARE rTRIANGLE jDIAGONAL_CROSS sDIAMOND sMIDDLE_RIGHT_TO_LOWER_CENTRE
jSQUARED_AB rCROSS_MARK rIC rLATIN_CAPITAL_LETTER_A znB znC znD znE znF znG znH znI znJ znK znL znM
znN znO znP znQ znR znS znT znU znV znW znX znY znZ rPA rQUESTION_MARK rSA rWC
cITHER_A_SUBSET_OF_NOR_EQUAL_TO mPERSET_OF_NOR_EQUAL_TO jPPROXIMATELY_NOR_ACTUALLY_EQUAL_TO
iGREATER-THAN_NOR_EQUAL_TO zdIVALENT_TO zLESS-THAN iLESS-THAN_NOR_EQUAL_TO zIVALENT_TO wGREATER-THAN
cL cPTUNE h_FORM_TWO cRD_FACE cSSUS dT_WITH_EGGS eING_DOLLS cUTER eRAL_CHESS_BISHOP
u_ROTATED_NINETY_DEGREES zeTWO_HUNDRED_SEVENTY_DEGREES oEQUIHOPPER y_ROTATED_NINETY_DEGREES oKING
s_ROTATED_NINETY_DEGREES zcTWO_HUNDRED_SEVENTY_DEGREES pNIGHT u_ROTATED_FORTY-FIVE_DEGREES
zeNINETY_DEGREES zeONE_HUNDRED_THIRTY-FIVE_DEGREES zeTHREE_HUNDRED_FIFTEEN_DEGREES
zfWO_HUNDRED_SEVENTY_DEGREES zqTWENTY-FIVE_DEGREES oPAWN s_ROTATED_NINETY_DEGREES
zcTWO_HUNDRED_SEVENTY_DEGREES oQUEEN t_ROTATED_NINETY_DEGREES zdTWO_HUNDRED_SEVENTY_DEGREES oROOK
s_ROTATED_NINETY_DEGREES zcTWO_HUNDRED_SEVENTY_DEGREES oTURNED_BISHOP vKING wNIGHT vPAWN vQUEEN
vROOK iFACE cW_LINE eMOON_SYMBOL jWITH_FACE eSHEQEL_SIGN eTAI_LUE_DIGIT_EIGHT sFIVE tOUR sNINE sONE
sSEVEN tIX sTHREE tWO sZERO mLETTER_FINAL_B zD zK zM zN zbG zV tHIGH_BA yDA yFA yHA yKA zVA yLA yMA
yNA zGA yPA zHA yQA ySA zUA yTA zHA zSA yVA yXA zVA yYA tLOW_BA xDA xFA xHA xKA yVA xLA xMA xNA yGA
xPA yHA xQA xSA yUA xTA yHA ySA xVA xXA yVA xYA mSIGN_LAE uV mTHAM_DIGIT_ONE nONE_MARK-1 w2
mVOWEL_SIGN_AA zY yE yY xE xII yY xO yA zY yY xU yE zY yU yY xVOWEL_SHORTENER dA_ABBREVIATION_SIGN
fCOMMA fDANDA gIGIT_EIGHT lFIVE mOUR lNINE lONE lSEVEN mIX lTHREE mWO lZERO gOUBLE_COMMA mDANDA
fGAP_FILLER fINSERTION_SIGN fLETTER_A nA nI nU mBA nHA mCA nHA mDA nDA oHA nHA mE mGA nHA mHA mI nI
mJA nHA mKA nHA mLA nHA mMA nHA mNA nGA oHA nHA nNA nYA oHA mO mPA nHA mRA nHA mSA nHA nSA mTA nHA
nTA oHA mU nU mVEDIC_ANUSVARA nOCALIC_L vL uR vR mWA mYA fOM fPLACEHOLDER_MARK fSANDHI_MARK gIDDHI
hGN_ANUSVARA lVAGRAHA kCANDRABINDU kFINAL_ANUSVARA kJIHVAMULIYA kNUKTA kUPADHMANIYA kVIRAMA mSARGA
fVOWEL_SIGN_AA rI rU qE qI rI qO qU rU qVOCALIC_L zL yR zR dLINE_LEFT iRIGHT dSPAPER cXT_LINE fPAGE
bIGHT_WITH_STARS cNJA bKO_COMBINING_DOUBLE_DOT_ABOVE oLONG_DESCENDING_TONE tHIGH_TONE tLOW_TONE
tRISING_TONE oNASALIZATION_MARK oSHORT_HIGH_TONE uLOW_TONE uRISING_TONE hMA eDANTAYALAN fIGIT_EIGHT
kFIVE lOUR kNINE kONE kSEVEN lIX kTHREE lWO kZERO fOROME_SIGN eEXCLAMATION_MARK
eHIGH_TONE_APOSTROPHE eLAJANYALAN fETTER_A lBA lCHA lDA nGBASINNA lE mE lFA lGBA lHA lI lJA mONA_CHA
qJA qRA lKA lLA lMA lN mA n_WOLOSO mYA o_WOLOSO lO mO lPA lRA mRA lSA lTA lU lWA lYA
fOW_TONE_APOSTROPHE eSYMBOL_GBAKURUNEN lOO_DENNEN eTAMAN_SIGN bL bNBSP bO_BICYCLES eREAK_HERE dENTRY
i_SIGN dMOBILE_PHONES dONE_UNDER_EIGHTEEN_SYMBOL dPEDESTRIANS eIRACY dSMOKING_SYMBOL c-BREAK_SPACE
cMINAL_DIGIT_SHAPES eSMA_SIGN cN-BREAKING_HYPHEN ePOTABLE_WATER_SYMBOL dFORKING cR dDIC_MARK_SIGN
dMAL_SUBGROUP_OF s_OR_EQUAL_TO dTH_EAST_AND_SOUTH_WEST_ARROW mRROW q_AND_SOUTH_EAST_ARROW
rCROSSING_NORTH_WEST_ARROW zbSOUTH_EAST_ARROW rWITH_HOOK lBLACK_ARROW lDOUBLE_ARROW lPOINTING_BUD
uLEAF uVINE_LEAF lSANS-SERIF_ARROW lTRIANGLE-HEADED_ARROW zh_TO_BAR lWHITE_ARROW
gINDIC_FRACTION_ONE_EIGHTH zHALF zQUARTER zSIXTEENTH vTHREE_QUARTERS zcSIXTEENTHS mPLACEHOLDER_MARK
mQUANTITY_MARK pRTER_MARK mRUPEE_MARK gWEST_AND_SOUTH_EAST_ARROW mRROW q_AND_NORTH_EAST_ARROW
rCROSSING_NORTH_EAST_ARROW rTO_CORNER uLONG_BAR rWITH_HOOK lBLACK_ARROW lDOUBLE_ARROW lPOINTING_BUD
uLEAF uVINE_LEAF lSANS-SERIF_ARROW lTRIANGLE-HEADED_ARROW zh_TO_BAR lWHITE_ARROW
fEAST-POINTING_AIRPLANE cSE cT_A_SUBSET_OF iPERSET_OF fLMOST_EQUAL_TO fN_ELEMENT_OF
fSYMPTOTICALLY_EQUAL_TO eCHECK_MARK eEQUAL_TO hIVALENT_TO eGREATER-THAN eIDENTICAL_TO eLESS-THAN
eNORMAL_SUBGROUP_OF w_OR_EQUAL_TO ePARALLEL_TO eSIGN fQUARE_IMAGE_OF_OR_EQUAL_TO
lORIGINAL_OF_OR_EQUAL_TO eTILDE fRUE dCHED_LEFT_SEMICIRCLE_WITH_THREE_DOTS
jOWER_RIGHT-SHADOWED_WHITE_RIGHTWARDS_ARROW iRIGHT_SEMICIRCLE_WITH_THREE_DOTS
iUPPER_RIGHT-SHADOWED_WHITE_RIGHTWARDS_ARROW dE e_PAD hGE eBOOK i_WITH_DECORATIVE_COVER bUL dL
cMBER_EIGHTEEN_FULL_STOP iLEVEN_FULL_STOP hFIFTEEN_FULL_STOP iOURTEEN_FULL_STOP hNINETEEN_FULL_STOP
hSEVENTEEN_FULL_STOP iIGN jXTEEN_FULL_STOP hTEN_FULL_STOP iHIRTEEN_FULL_STOP iWELVE_FULL_STOP
kNTY_FULL_STOP dERO_SIGN cSHU_CHARACTER-1B170 u1 u2 u3 u4 u5 u6 u7 u8 u9 uA uB uC uD uE uF t80 u1 u2
u3 u4 u5 u6 u7 u8 u9 uA uB uC uD uE uF t90 u1 u2 u3 u4 u5 u6 u7 u8 u9 uA uB uC uD uE uF tA0 u1 u2 u3
u4 u5 u6 u7 u8 u9 uA uB uC uD uE uF tB0 u1 u2 u3 u4 u5 u6 u7 u8 u9 uA uB uC uD uE uF tC0 u1 u2 u3 u4
u5 u6 u7 u8 u9 uA uB uC uD uE uF tD0 u1 u2 u3 u4 u5 u6 u7 u8 u9 uA uB uC uD uE uF tE0 u1 u2 u3 u4 u5
u6 u7 u8 u9 uA uB uC uD uE uF tF0 u1 u2 u3 u4 u5 u6 u7 u8 u9 uA uB uC uD uE uF s200 u1 u2 u3 u4 u5
u6 u7 u8 u9 uA uB uC uD uE uF t10 u1 u2 u3 u4 u5 u6 u7 u8 u9 uA uB uC uD uE uF t20 u1 u2 u3 u4 u5 u6
u7 u8 u9 uA uB uC uD uE uF t30 u1 u2 u3 u4 u5 u6 u7 u8 u9 uA uB uC uD uE uF t40 u1 u2 u3 u4 u5 u6 u7
u8 u9 uA uB uC uD uE uF t50 u1 u2 u3 u4 u5 u6 u7 u8 u9 uA uB uC uD uE uF t60 u1 u2 u3 u4 u5 u6 u7 u8
u9 uA uB uC uD uE uF t70 u1 u2 u3 u4 u5 u6 u7 u8 u9 uA uB uC uD uE uF t80 u1 u2 u3 u4 u5 u6 u7 u8 u9
uA uB uC uD uE uF t90 u1 u2 u3 u4 u5 u6 u7 u8 u9 uA uB uC uD uE uF tA0 u1 u2 u3 u4 u5 u6 u7 u8 u9 uA
uB uC uD uE uF tB0 u1 u2 u3 u4 u5 u6 u7 u8 u9 uA uB uC uD uE uF tC0 u1 u2 u3 u4 u5 u6 u7 u8 u9 uA uB
uC uD uE uF tD0 u1 u2 u3 u4 u5 u6 u7 u8 u9 uA uB uC uD uE uF tE0 u1 u2 u3 u4 u5 u6 u7 u8 u9 uA uB uC
uD uE uF tF0 u1 u2 u3 u4 u5 u6 u7 u8 u9 uA uB gITERATION_MARK cT_AND_BOLT
bYIAKENG_PUACHUE_HMONG_CIRCLED_CA xDIGIT_EIGHT zeFIVE zfOUR zeNINE zeONE zeSEVEN zfIX zeTHREE zfWO
zeZERO xLETTER_A zgA zfCA zfDA zgLA zfE zgE zfFA zfGA zfHA zhH zfI zfKA zfLA zfMA zgLA zfNA zgCA
zgKA zgPA zhLA zgQA zgRA zgTA zhSA zhXA zgYA zfO zgO zfPA zgLA zfQA zfRA zgRA zfSA zfTA zgSA zgXA
zfU zfVA zfW zfXA zgYA zfYA zfZA yOGOGRAM_NYAJ xSIGN_FOR_ANIMAL zhINVERTEBRATE zhLOCATION zhPERSON
zhTHING zdXW_XW yYLLABLE_LENGTHENER xTONE-B zdD zdG zdJ zdM zdS zdV"

def namesWithO : String := "
aOBJECT_REPLACEMENT_CHARACTER cLIQUE_ANGLE_OPENING_DOWN wUP iHYPHEN cSERVER_EYE_SYMBOL
bCR_AMOUNT_OF_CHECK eBELT_BUCKLE fOW_TIE fRANCH_BANK_IDENTIFICATION eCHAIR fUSTOMER_ACCOUNT_NUMBER
eDASH fOUBLE_BACKSLASH eFORK eHOOK eINVERTED_FORK cTAGONAL_SIGN dOPUS bDEN bFFICE_BUILDING
bGHAM_FEATHER_MARK gLETTER_AILM nBEITH nCEIRT oOLL nDAIR nEABHADH pDHADH pMHANCHOLL nFEARN nGORT
nIFIN oODHADH nLUIS nMUIN nNGEADAL oION nONN oR nPEITH nRUIS nSAIL oTRAIF nTINNE nUATH oILLEANN oR
gREVERSED_FEATHER_MARK gSPACE_MARK cONEK bHM_SIGN bIL_DRUM bK_HAND_SIGN bL_CHIKI_AHAD jDIGIT_EIGHT
pFIVE qOUR pNINE pONE pSEVEN qIX pTHREE qWO pZERO jGAAHLAA_TTUDDAAG jLETTER_AAJ sK sM sW rG rL rNG
rT qEDD rN rP rRR qIH rNY rR rS qLA sA rE rI rO rU qOB rH rTT rV qUC rD rNN rY jMU_TTUDDAG
l-GAAHLAA_TTUDDAAG jPHAARKAA kUNCTUATION_DOUBLE_MUCAAD vMUCAAD jRELAA cD_CHINESE_HOOK_MARK
mITERATION_MARK eHUNGARIAN_CAPITAL_LETTER_A zfA zfK zfMB zfND zeCLOSE_E zeE zfB zfC zgH zgS zfD zfE
zfF zfG zgY zfH zfJ zfK zfL zgY zfM zgP zfN zgC zgT zh-SHAPED_SIGN zgY zfP zfR zfS zgZ zfT zgY zfV
zfZ zgS zeI zfI zeNIKOLSBURG_OE zpUE zeO zfEE zfO zeRUDIMENTA_OE zoUE zeSHORT_ER zeU zfNK zfS zfU
oNUMBER_FIFTY xVE vONE y_HUNDRED zTHOUSAND vTEN oSMALL_LETTER_A zdA zdK zdMB zdND zcCLOSE_E zcE zdB
zdC zeH zeS zdD zdE zdF zdG zeY zdH zdJ zdK zdL zeY zdM zeP zdN zeC zeT zf-SHAPED_SIGN zeY zdP zdR
zdS zeZ zdT zeY zdV zdZ zeS zcI zdI zcNIKOLSBURG_OE znUE zcO zdEE zdO zcRUDIMENTA_OE zmUE zcSHORT_ER
zcU zdNK zdS zdU eITALIC_LETTER_A sBE sCHE sDE sE tF tKS tL tM tN tR uS tS uH uS sHE sI tI sKA tE
tHE tU sNORTHERN_TSE sO sPE tHE sSHE tOUTHERN_TSE sTE tHE sU tU sVE sYE sZE lNUMERAL_FIFTY vVE tONE
tTEN eKEY eNORTH_ARABIAN_LETTER_AIN zbLEF zBEH zDAD zcL zES-1 zd2 zd3 zFEH zGEEM zbHAIN zHAH zbEH
zKAF zbHAH zLAM zMEEM zNOON zQAF zREH zSAD zTAH zbEH zbHAL zcEH zWAW zYEH zZAH zcIN sNUMBER_ONE zTEN
zbWENTY ePERMIC_LETTER_AN sBUR sCHERY sDOI tZHOI uITA sE tF sGAI sHA sI tA tE sKOKE sLEI sMENOE
sNENOE sO tO sPEEI sREI sSHCHOOI uOOI tII sTAI tSIU sU sVER tOOI sYA uT tER vI vU tRY tU sZATA tHOI
hSIAN_NUMBER_HUNDRED tONE tTEN uWENTY vO mSIGN_A sURAMAZDAA zc-2 zcHA rBA tGA sUUMISH rCA rDA
tHYAAUSH zb-2 sI sU rFA rGA sU rHA rI rJA sI rKA sU rLA rMA sI sU rNA sU rPA rRA sU rSA sHA sSA rTA
sHA sU rU rVA sI rXA sSHAAYATHIYA rYA rZA mWORD_DIVIDER iONAL_COMPUTER eSOGDIAN_FRACTION_ONE_HALF
mLETTER_ALEPH vTERNATE_AYIN uYIN tBETH tFINAL_ALEPH zBETH zHE zNUN zd_WITH_VERTICAL_TAIL zSADHE
zf_WITH_VERTICAL_TAIL zTAW zd_WITH_VERTICAL_TAIL tGIMEL tHE vTH tKAPH tLAMEDH tMEM tNUN tPE
tRESH-AYIN-DALETH tSADHE vMEKH uHIN tTAW tWAW tYODH tZAYIN nIGATURE_AYIN-DALETH mNUMBER_FIVE uOUR
tONE w_HUNDRED tTEN uHIRTY vREE uWENTY vO gUTH_ARABIAN_LETTER_ALEF zbYN zBETH zDALETH zbHADHE zdLETH
zFE zGHAYN zbIMEL zHE zcTH zKAPH zbHETH zLAMEDH zMEM zNUN zQOPH zRESH zSADHE zcMEKH zcT zbHIN zTAW
zbETH zbHAW zcETH zWAW zYODH zZAYN sNUMBER_FIFTY zONE vERIC_INDICATOR eTURKIC_LETTER_ORKHON_A zbB
zbD zbEB zcD zcG zcK zcL zcN zcR zcS zcT zcY zbG zbL zbN zbQ zbR zbS zcH zbT zbY zBASH zEC zbLT zbM
zbNC zcG zcT zcY zbP zbSH zbZ zI zbC zbQ zO zbE zcK zbP zbQ zbT sYENISEI_A zcB zcD zcE zdB zdG zdK
zdN zeG zdT zdY zcG zcL zcNG zcQ zcR zcSH zcT zcY zbE zcC zcNC zdT zdY zcSH zcZ zbI zcQ zbOE zdK zcQ
eUYGHUR_COMBINING_DOT_ABOVE zBELOW vTWO_DOTS_ABOVE zfBELOW lLETTER_ALEPH sBETH sFINAL_HETH
sGIMEL-HETH sKAPH sLAMEDH tESH sMEM sNUN sPE sRESH sSADHE uMEKH tHIN sTAW sWAW sYODH sZAYIN
lPUNCTUATION_BAR xFOUR_DOTS xTWO_BARS zcDOTS dER_ADULT gMAN gWOMAN cIVE bM_SYMBOL
bN_WITH_EXCLAMATION_MARK_WITH_LEFT_RIGHT_ARROW_ABOVE cCOMING_AUTOMOBILE jBUS jFIRE_ENGINE
jPOLICE_CAR jTAXI cE_BUTTON_MOUSE eDOT_LEADER iOVER_TWO_DOTS_PUNCTUATION d-PIECE_SWIMSUIT cION
bPEN_BOOK hX fCENTRE_ASTERISK mBLACK_STAR mCROSS mTEARDROP-SPOKED_ASTERISK fFILE_FOLDER gOLDER
fHANDS_SIGN fLOCK fMAILBOX_WITH_LOWERED_FLAG sRAISED_FLAG fSUBSET hPERSET
e-CIRCUIT-OUTPUT_H-TYPE_SYMBOL uL-TYPE_SYMBOL fOUTLINED_RIGHTWARDS_ARROW dRATING_SYSTEM_COMMAND
cHIUCHUS cPOSITION cTICAL_DISC m_ICON eON_KEY bR_WITH_DOT_INSIDE cANGE_BOOK hHEART fUTAN cIGINAL_OF
dYA_AI_LENGTH_MARK hU_LENGTH_MARK gDIGIT_EIGHT mFIVE nOUR mNINE mONE mSEVEN nIX mTHREE nWO mZERO
gFRACTION_ONE_EIGHTH tHALF tQUARTER tSIXTEENTH pTHREE_QUARTERS vSIXTEENTHS gISSHAR gLETTER_A oA oI
oU nBA oHA nCA oHA nDA oDA pHA oHA nE nGA oHA nHA nI oI nJA oHA nKA oHA nLA oLA nMA nNA oGA oNA oYA
nO nPA oHA nRA oHA oRA nSA oHA oSA nTA oHA oTA pHA nU oU nVA oOCALIC_L wL vR wR nWA nYA oYA
gSIGN_ANUSVARA mVAGRAHA lCANDRABINDU lNUKTA lOVERLINE lVIRAMA nSARGA gVOWEL_SIGN_AA sI sU rE rI sI
rO rU sU rVOCALIC_L zbL zR zbR cNATE_LEFT_PARENTHESIS hRIGHT_PARENTHESIS cTHODOX_CROSS
bSAGE_CAPITAL_LETTER_A wH wI xN vBRA vCHA vDHA vE wHCHA xKA xPA xTA ySA wIN vGHA vHA wYA vI vKA wHA
wYA vLA vMA vNA vO wIN vPA vSA wHA vTA wSA xHA vU vWA vZA wHA gSMALL_LETTER_A uH uI vN tBRA tCHA
tDHA tE uHCHA vKA vPA vTA wSA uIN tGHA tHA uYA tI tKA uHA uYA tLA tMA tNA tO uIN tPA tSA uHA tTA uSA
vHA tU tWA tZA uHA cC cMANYA_DIGIT_EIGHT oFIVE pOUR oNINE oONE oSEVEN pIX oTHREE pWO oZERO iLETTER_A
qA qLEF pBA pCAYN pDEEL qHA pE qE pFA pGA pHA pI pJA pKAAF qHA pLAAN pMIIN pNUUN pO qO pQAAF pRA pSA
qHIIN pTA pU pWAW pXA pYA bTTER dOMAN_SIYAQ_ALTERNATE_NUMBER_EIGHT zgFIVE zhOUR zk_HUNDRED zgNINE
zgSEVEN zhIX zj_HUNDRED zgTEN zj_THOUSAND zhHREE zhWO zj_THOUSAND oFRACTION_ONE_HALF zcSIXTH
oMARRATAN oNUMBER_EIGHT zb_HUNDRED zcTHOUSAND zbY zc_THOUSAND vFIFTY zb_THOUSAND xVE z_HUNDRED
zbTHOUSAND wORTY zb_THOUSAND xUR z_HUNDRED zbTHOUSAND vNINE z_HUNDRED zbTHOUSAND zTY zc_THOUSAND
vONE y_HUNDRED zTHOUSAND vSEVEN zb_HUNDRED zcTHOUSAND zbTY zd_THOUSAND wIX y_HUNDRED zTHOUSAND yTY
zb_THOUSAND vTEN y_THOUSAND wHIRTY zc_THOUSAND xREE zb_HUNDRED zcTHOUSAND wWENTY zc_THOUSAND xO
y_HUNDRED zTHOUSAND bUNCE_SIGN cTBOX_TRAY dLINED_BLACK_STAR jGREEK_CROSS jLATIN_CROSS jWHITE_STAR
bVERHEATED_FACE eLAP hPING_BLACK_SQUARES mWHITE_AND_BLACK_SQUARES sSQUARES fINE bWL bX bYSTER"

def namesWithP : String := "
aPACKAGE cD dDING_CHARACTER cGE e_FACING_UP fWITH_CIRCLED_TEXT lURL eR eS dODA
cHAWH_HMONG_CLAN_SIGN_FAJ xHAM zWJ xKHAB yOO yWM xLAUJ yIS xMUAS xPHAB xTHOJ ySAB zHEEJ zWB xVAJ yWJ
xXYOOJ xYAJ yEEG oONSONANT_AU xCAU yHAU xHAU yLAU yNAU xLAU xMAU xNAU yCHAU yKAU yLAU yTHAU zSAU
xPLHAU xQHAU xRAU xVAU xXAU xYAU nDIGIT_EIGHT tFIVE uOUR tNINE tONE tSEVEN uIX tTHREE uWO tZERO
nMARK_CIM_HOM wKES xHAV wSO xUAM wTAUM xUB nNUMBER_HUNDRED_MILLIONS zcS uMILLIONS uTEN_BILLIONS
yTHOUSANDS xS vRILLIONS nSIGN_AV sCIM_CHEEM xUAM_TSHOOJ wHAIS_LUS_NTOG_NTOG wNRES_TOS wPUB_DAWB
wTSOV_ROG xXWV zb_CHWV sHLI tNUB sIB_YAM sLOS sMEEJ_SUAB xTSEEB tUS sNQIG tTUJ sTAU tHIRD-STAGE_HLI
tXHEEJ_CEEV sVOS_FEEM wLUB wNRUA wSEEV wTHIAB yOM xSHAB_CEEB sXAUS tIAB tYEEM_FAIB yNTXIV yRHO yTOV
uOO sZWJ_THAJ nVOWEL_KAAB wV vB vIB wV vUB wV vV vWB wV uEB vEB wV vV uIAB wV vB vV uOB vOB wV vV
uUAB wV vB vV uWB vV cLLAS dM_BRANCH fDOWN_HAND fTREE fUP_HAND eS_UP_TOGETHER
eYRENE_LEFT-POINTING_FLEURON mTTER_ALEPH sYIN rBETH rDALETH rFINAL_NUN rGIMEL rHE tTH rKAPH rLAMEDH
rMEM rNUN rPE rQOPH rRESH rSADHE tMEKH sHIN rTAW sETH rWAW rYODH rZAYIN kNUMBER_FIVE sOUR rONE rTEN
sHREE sWENTY tO kRIGHT-POINTING_FLEURON cNCAKES dDA_FACE cPERCLIP cRACHUTE eGRAPH_SEPARATOR jOS
jUS_MARK eLLEL_TO jWITH_HORIZONTAL_STROKE oTILDE_OPERATOR dENTHESIZED_DIGIT_EIGHT uFIVE vOUR uNINE
uONE uSEVEN vIX uTHREE vWO oHANGUL_CHIEUCH zd_A wIEUC zb_A zcU vHIEUH zb_A vIEUNG zb_A vKHIEUKH zd_A
wIYEOK zc_A vMIEUM zb_A vNIEUN zb_A vPHIEUPH zd_A wIEUP zb_A vRIEUL zb_A vSIOS z_A vTHIEUTH zd_A
wIKEUT zc_A oIDEOGRAPH_ALLIANCE yCALL zONGRATULATION yEARTH zIGHT zNTERPRISE yFESTIVAL zINANCIAL
zbRE zbVE zOUR yHAVE yLABOR yMETAL zOON yNAME zINE yONE yREACH zbPRESENT zbSOURCE zcT ySELF zbVEN
zIX zOCIETY zPECIAL zTOCK zbUDY zUN zbPERVISE yTEN zHREE zWO yWATER zOOD oKOREAN_CHARACTER_O_HU
zhJEON oLATIN_CAPITAL_LETTER_A zkB zkC zkD zkE zkF zkG zkH zkI zkJ zkK zkL zkM zkN zkO zkP zkQ zkR
zkS zkT zkU zkV zkW zkX zkY zkZ uSMALL_LETTER_A ziB ziC ziD ziE ziF ziG ziH ziI ziJ ziK ziL ziM ziN
ziO ziP ziQ ziR ziS ziT ziU ziV ziW ziX ziY ziZ oNUMBER_EIGHTEEN wLEVEN vFIFTEEN wOURTEEN vNINETEEN
vSEVENTEEN wIXTEEN vTEN wHIRTEEN wWELVE yNTY dROT dT_ALTERNATION_MARK eIAL_DIFFERENTIAL
iLINE_BACKWARD nDOWN nFORWARD nUP hLY-RECYCLED_PAPER_SYMBOL eNERSHIP_SIGN eY_POPPER cSSED_SYMBOL
fNGER_SHIP eIVE-PULL-DOWN-OUTPUT_SYMBOL nUP-OUTPUT_SYMBOL ePORT_CONTROL cU_CIN_HAU_GLOTTAL_STOP
y_FINAL zVARIANT mLETTER_A tBA tCA uHA tDA tE tFA uINAL_K zL zM zN zbG zP zT zW zY tGA tHA tI uA tKA
uHA tLA tMA tNA uGA tO tPA uHA tRA tSA tTA uHA tU uA tVA tZA nOW-FALLING_TONE zd_FINAL zeLONG
zi_FINAL mMID-LEVEL_TONE zb_FINAL zcLONG_FINAL mRISING_TONE x_FINAL yLONG zd_FINAL
mSANDHI_GLOTTAL_STOP zg_FINAL tTONE x_FINAL yLONG zd_FINAL cW_PRINTS bDF cI bEACE_SYMBOL eH eOCK
dNUTS dR cDESTRIAN cN_OVER_STAMPED_ENVELOPE dCIL dGUIN dSIVE_FACE dTAGRAM cOPLE_HUGGING
cR_MILLE_SIGN eSIGN eTEN_THOUSAND_SIGN dCENT_SIGN dFORMING_ARTS dMANENT_PAPER_SIGN dPENDICULAR
n_WITH_S dSEVERING_FACE eON_BOWING_DEEPLY hCLIMBING hDOING_CARTWHEEL hFROWNING hIN_LOTUS_POSITION
kSTEAMY_ROOM hRAISING_BOTH_HANDS_IN_CELEBRATION hWITH_BALL nLOND_HAIR mCROWN mFOLDED_HANDS
mHEADSCARF mPOUTING_FACE gAL_COMPUTER ePECTIVE cSETA_SIGN dO_SIGN cTRI_DISH
bHAGS-PA_DOUBLE_HEAD_MARK jLETTER_A rLTERNATE_YA rSPIRATED_FA qBA qCA sNDRABINDU rHA qDA rDA rZA qE
rE qFA qGA rGA qHA qI qJA qKA rHA qLA qMA qNA rGA rNA rYA qO qPA rHA qQA qRA qSA rHA rMALL_A qTA rHA
rSA sHA rTA sHA qU qVOICED_HA vLESS_SHA qWA qXA qYA qZA rHA jMARK_DOUBLE_SHAD oSHAD
jSINGLE_HEAD_MARK kUBJOINED_LETTER_RA zbWA zbYA lPERFIXED_LETTER_RA dISTOS_DISC_SIGN_ARROW tBEE
wHIVE uOOMERANG vW uULLS_LEG tCAPTIVE vRPENTRY_PLANE vT uHILD uLUB uOLUMN vMB xINING_OBLIQUE_STROKE
tDOLIUM vVE tEAGLE tFLUTE tGAUNTLET uRATER tHELMET uIDE uORN tLID vLY tMANACLES vTTOCK tOX_BACK
tPAPYRUS uEDESTRIAN uLANE_TREE vUMED_HEAD tRAM uOSETTE tSAW uHIELD wP uLING uMALL_AXE uTRAINER
tTATTOOED_HEAD uIARA uUNNY tVINE tWAVY_BAND uOMAN cILIPPINE_DOUBLE_PUNCTUATION lSINGLE_PUNCTUATION
cOENICIAN_LETTER_AIN tLF sBET sDELT sGAML sHE uT sKAF sLAMD sMEM sNUN sPE sQOF sROSH sSADE tEMK tHIN
sTAU tET sWAU sYOD sZAI lNUMBER_ONE v_HUNDRED sTEN tHREE tWENTY uO lWORD_SEPARATOR dLUS bICK
eUP_TRUCK cE cG d_FACE eNOSE cLCROW_SIGN dE_OF_POO dL cNATA dCHED_FINGERS fING_HAND dE_DECORATION
eAPPLE dWHEEL_STAR cSCES dTOL cTCHFORK j_WITH_TEE_TOP bLACARD eE_OF_INTEREST_SIGN jWORSHIP
dNCK_CONSTANT p_OVER_TWO_PI dYGROUND_SLIDE eING_CARD_ACE_OF_CLUBS uDIAMONDS uHEARTS uSPADES nBACK
oLACK_JOKER nEIGHT_OF_CLUBS wDIAMONDS wHEARTS wSPADES nFIVE_OF_CLUBS vDIAMONDS vHEARTS vSPADES oOOL
pUR_OF_CLUBS vDIAMONDS vHEARTS vSPADES nJACK_OF_CLUBS vDIAMONDS vHEARTS vSPADES nKING_OF_CLUBS
vDIAMONDS vHEARTS vSPADES oNIGHT_OF_CLUBS xDIAMONDS xHEARTS xSPADES nNINE_OF_CLUBS vDIAMONDS vHEARTS
vSPADES nQUEEN_OF_CLUBS wDIAMONDS wHEARTS wSPADES nRED_JOKER nSEVEN_OF_CLUBS wDIAMONDS wHEARTS
wSPADES oIX_OF_CLUBS uDIAMONDS uHEARTS uSPADES nTEN_OF_CLUBS uDIAMONDS uHEARTS uSPADES
oHREE_OF_CLUBS wDIAMONDS wHEARTS wSPADES oRUMP-1 u0 u1 u2 u3 u4 u5 u6 u7 u8 u9 t2 u0 u1 t3 t4 t5 t6
t7 t8 t9 oWO_OF_CLUBS uDIAMONDS uHEARTS uSPADES nWHITE_JOKER cD cU dNGER dS_SIGN j_ABOVE_EQUALS_SIGN
kIN_LEFT_HALF_CIRCLE nRIGHT_HALF_CIRCLE nTRIANGLE kWITH_BLACK_TRIANGLE pCIRCUMFLEX_ACCENT_ABOVE
pDOT_BELOW pSMALL_CIRCLE_ABOVE qUBSCRIPT_TWO pTILDE_ABOVE vBELOW e-MINUS_SIGN dTO f_FORM_FIVE mOUR
lTHREE mWO bM bOCKET_CALCULATOR cLICE_CAR kS_REVOLVING_LIGHT hOFFICER cODLE
cP_DIRECTIONAL_FORMATTING qISOLATE dCORN cRTABLE_STEREO cSEIDON dITION_INDICATOR dTAL_HORN hMARK
l_FACE eBOX cT_OF_FOOD dABLE_WATER_SYMBOL eTO dTED_PLANT cUCH dLTRY_LEG dND_SIGN dRING_LIQUID
dTING_CAT_FACE iFACE cWER_ON_SYMBOL i-OFF_SYMBOL gSLEEP_SYMBOL hYMBOL bRAYER_BEADS cECEDES
i_ABOVE_ALMOST_EQUAL_TO pEQUALS_SIGN pNOT_ALMOST_EQUAL_TO tEQUAL_TO pSINGLE-LINE_EQUALS_SIGN
zcNOT_EQUAL_TO jBUT_NOT_EQUIVALENT_TO jOR_EQUAL_TO pIVALENT_TO jUNDER_RELATION dGNANT_MAN jPERSON
jWOMAN dSCRIPTION_TAKE eENTATION_FORM_FOR_VERTICAL_COLON ziMMA zgEM_DASH zhN_DASH zhXCLAMATION_MARK
zgHORIZONTAL_ELLIPSIS zgIDEOGRAPHIC_COMMA zsFULL_STOP zgLEFT_ANGLE_BRACKET
zlBLACK_LENTICULAR_BRACKET zlCORNER_BRACKET zmURLY_BRACKET zlDOUBLE_ANGLE_BRACKET zlPARENTHESIS
zlSQUARE_BRACKET zlTORTOISE_SHELL_BRACKET zlWHITE_CORNER_BRACKET zrLENTICULAR_BRACKET zhOW_LINE
zgQUESTION_MARK zgRIGHT_ANGLE_BRACKET zmBLACK_LENTICULAR_BRACKET zmCORNER_BRACKET znURLY_BRACKET
zmDOUBLE_ANGLE_BRACKET zmPARENTHESIS zmSQUARE_BRACKET zmTORTOISE_SHELL_BRACKET
zmWHITE_CORNER_BRACKET zsLENTICULAR_BRACKET zzhKCET zgSEMICOLON zgTWO_DOT_LEADER zgWAVY_LOW_LINE
dTZEL dVIOUS_PAGE cIME dNCE gSS eT_SCREEN_SYMBOL fER h_ICON dVACY_MESSAGE fTE_USE_ONE mTWO l-1 m2
cOBING_CANE dHIBITED_SIGN dJECTIVE dPERTY_LINE eORTION kAL_TO dSERPINA
bSALTER_PAHLAVI_FOUR_DOTS_WITH_CROSS zgDOT qLETTER_ALEPH xBETH xDALETH xGIMEL xHE zTH xKAPH xLAMEDH
xMEM-QOPH xNUN xPE xSADHE zMEKH yHIN xTAW xWAW-AYIN-RESH xYODH xZAYIN qNUMBER_FOUR xONE zb_HUNDRED
xTEN yHREE yWENTY zO qSECTION_MARK qTURNED_SECTION_MARK bU1 c2 cBLIC_ADDRESS_LOUDSPEAKER
cNCTUATION_SPACE gS_ELEVATUS_MARK cRPLE_HEART dSE cSHPIN cT_LITTER_IN_ITS_PLACE_SYMBOL"

def namesWithQ : String := "
aQUADRANT_LOWER_LEFT pRIGHT jUPPER_LEFT t_AND_LOWER_LEFT_AND_LOWER_RIGHT zfRIGHT
yUPPER_RIGHT_AND_LOWER_LEFT zvRIGHT pRIGHT u_AND_LOWER_LEFT zk_AND_LOWER_RIGHT
fUPLE_INTEGRAL_OPERATOR kPRIME dRTER_NOTE dTERNION_INTEGRAL_OPERATOR cESTION_EXCLAMATION_MARK jMARK
iED_EQUAL_TO cINCUNX cOTATION_MARK"

def namesWithR : String := "
aRABBIT g_FACE cCCOON dING_CAR hMOTORCYCLE cDICAL_SYMBOL_BOTTOM eO f_BUTTON fACTIVE_SIGN cILWAY_CAR
iTRACK dN eBOW dSED_BACK_OF_HAND hCOMMA hDOT kTED_INTERPOLATION_MARKER hFIST hHAND
l_WITH_FINGERS_SPLAYED rPART_BETWEEN_MIDDLE_AND_RING_FINGERS hINTERPOLATION_MARKER hMC_SIGN iD_SIGN
iR_SIGN hSQUARE cM cT dIO cZOR bECEIPT dORD_SEPARATOR dREATIONAL_VEHICLE dYCLED_PAPER_SYMBOL
gING_SYMBOL_FOR_GENERIC_MATERIALS vTYPE-1_PLASTICS zb2_PLASTICS zb3_PLASTICS zb4_PLASTICS
zb5_PLASTICS zb6_PLASTICS zb7_PLASTICS cD_APPLE eGIFT_ENVELOPE cFERENCE_MARK
cGIONAL_INDICATOR_SYMBOL_LETTER_A ziB ziC ziD ziE ziF ziG ziH ziI ziJ ziK ziL ziM ziN ziO ziP ziQ
ziR ziS ziT ziU ziV ziW ziX ziY ziZ eSTERED_SIGN cJANG_CONSONANT_SIGN_H wN xG wR hLETTER_A oBA oCA
oDA oGA oHA oJA oKA oLA oMA pBA oNA pDA pGA qGA pYA qJA oPA oRA oSA oTA oWA oYA hSECTION_MARK
hVIRAMA iOWEL_SIGN_AI tU sE tA tU sI sO sU cLIEVED_FACE cMINDER_RIBBON cPLACEMENT_CHARACTER cSPONSE
dTRICTED_LEFT_ENTRY-1 w2 fOOM cTURN_LEFT hRIGHT hSYMBOL cVERSE_CHECKER_BOARD iINDEX
iLIGHT_FOUR_POINTED_PINWHEEL_STAR kNE_FEED iSOLIDUS p_OPERATOR qPRECEDING_SUBSET
qWITH_HORIZONTAL_STROKE iTILDE_OPERATOR_ABOVE_LEFTWARDS_ARROW zeRIGHTWARDS_ARROW hD_ANGLE
o_WITH_UNDERBAR jCOMMA jDOUBLE_PRIME v_QUOTATION_MARK qSTROKE_NOT_SIGN jEMPTY_SET
jFORKED_PARAGRAPHOS jHAND_WITH_MIDDLE_FINGER_EXTENDED jNOT_SIGN jPILCROW_SIGN kRIME jQUESTION_MARK
jRAISED_HAND_WITH_FINGERS_SPLAYED kIGHT_ANGLE kOTATED_FLORAL_HEART_BULLET jSANS-SERIF_CAPITAL_L
kEMICOLON jTHUMBS_DOWN_SIGN qUP_SIGN kILDE o_EQUALS kRIPLE_PRIME jVICTORY_HAND dOLVING_HEARTS
bHINOCEROS bI cAL_SIGN cBBON g_ARROW_DOWN_LEFT sRIGHT nLEFT_DOWN sUP nRIGHT_DOWN tUP nUP_LEFT qRIGHT
cCE_BALL fCRACKER cFLE cGHT_AND_LOWER_ONE_EIGHTH_BLOCK kUPPER_ONE_EIGHTH_BLOCK iGER_BUBBLE jLE
l_BRACKET t_WITH_DOT mDOTTED_SUBSTITUTION_MARKER mSUBSTITUTION_MARKER mVARIANT_WITH_SQUARE mWITH_ARC
rDOWNWARDS_ZIGZAG_ARROW hRC_GREATER-THAN_BRACKET iROW_WITH_CIRCLED_PLUS rSMALL_CIRCLE
gBLACK_LENTICULAR_BRACKET mTORTOISE_SHELL_BRACKET gCEILING hORNER_BRACKET hURLY_BRACKET t_LOWER_HOOK
uMIDDLE_PIECE uUPPER_HOOK gDOTTED_SUBSTITUTION_BRACKET iUBLE_ANGLE_BRACKET oRROW_WITH_ROUNDED_HEAD
nPARENTHESIS nQUOTATION_MARK nWIGGLY_FENCE gFISH_TAIL iVE_EIGHTHS_BLOCK hLOOR gHALF_BLACK_CIRCLE
rSTAR nOCK lFOLDER lMEDIUM_SHADE lRUNNING_MAN iND_TELEPHONE_RECEIVER gLOW_PARAPHRASE_BRACKET
gNORMAL_FACTOR_SEMIDIRECT_PRODUCT gONE_EIGHTH_BLOCK kQUARTER_BLOCK hPEN_SQUARED_DOT hUTER_JOIN
gPARENTHESIS r_EXTENSION sLOWER_HOOK sUPPER_HOOK gRAISED_OMISSION_BRACKET gS-SHAPED_BAG_DELIMITER
hEMIDIRECT_PRODUCT iVEN_EIGHTHS_BLOCK hIDEWAYS_U_BRACKET iNGLE_QUOTATION_MARK hPEAKER
n_WITH_ONE_SOUND_WAVE tTHREE_SOUND_WAVES jECH_BUBBLE hQUARE_BRACKET u_EXTENSION vLOWER_CORNER
vUPPER_CORNER vWITH_DOUBLE_STROKE zbQUILL zbSTROKE zbTICK_IN_BOTTOM_CORNER zjTOP_CORNER zbUNDERBAR
hUBSTITUTION_BRACKET gTACK hHIRD_WHITE_RIGHT_POINTING_INDEX iOUGHT_BUBBLE iREE_EIGHTHS_BLOCK
mQUARTERS_BLOCK hORTOISE_SHELL_BRACKET hRANSPOSITION_BRACKET iIANGLE o_ABOVE_LEFT_TRIANGLE
mULAR_ONE_QUARTER_BLOCK gVERTICAL_BAR_WITH_QUILL qOX_LINE gWHITE_CORNER_BRACKET nURLY_BRACKET
mLENTICULAR_BRACKET mPARENTHESIS mSQUARE_BRACKET mTORTOISE_SHELL_BRACKET hIGGLY_FENCE
f-FACING_ARMENIAN_ETERNITY_SIGN nFIST nSVASTI_SIGN y_WITH_DOTS gHANDED_INTERLACED_PENTAGRAM
gPOINTING_ANGLE_BRACKET pCURVED_ANGLE_BRACKET pDOUBLE_ANGLE_QUOTATION_MARK pMAGNIFYING_GLASS
gSHADED_WHITE_RIGHTWARDS_ARROW hIDE_ARC_CLOCKWISE_ARROW gTO-LEFT_EMBEDDING oISOLATE oMARK oOVERRIDE
fHAND_INTERIOR_PRODUCT fWARDS_ARROW q_ABOVE_ALMOST_EQUAL_TO xREVERSE_ALMOST_EQUAL_TO
zgTILDE_OPERATOR xSHORT_LEFTWARDS_ARROW xTILDE_OPERATOR sND_UPPER_AND_LOWER_ONE_EIGHTH_BLOCK
rFROM_BAR z_TO_BLACK_DIAMOND rOVER_LEFTWARDS_ARROW rTHROUGH_GREATER-THAN zSUPERSET zX sO_BAR
vLACK_DIAMOND rWITH_CORNER_DOWNWARDS wDOTTED_STEM yUBLE_VERTICAL_STROKE wEQUILATERAL_ARROWHEAD wHOOK
wLARGE_TRIANGLE_ARROWHEAD xOOP wMEDIUM_TRIANGLE_ARROWHEAD wNOTCHED_TAIL wPLUS_BELOW
wSMALL_EQUILATERAL_ARROWHEAD zdTRIANGLE_ARROWHEAD xTROKE wTAIL zb_WITH_DOUBLE_VERTICAL_STROKE
zhVERTICAL_STROKE xIP_DOWNWARDS zbUPWARDS wVERTICAL_STROKE q-TAIL lBACK-TILTED_SHADOWED_WHITE_ARROW
mLACK_ARROW rCIRCLED_WHITE_ARROW mOTTOM_SHADED_WHITE_ARROW lCOMPRESSED_ARROW lDASHED_ARROW
mOUBLE_ARROW x_FROM_BAR yWITH_STROKE zeVERTICAL_STROKE x-TAIL sDASH_ARROW lFINGER-POST_ARROW
mRONT-TILTED_SHADOWED_WHITE_ARROW lHAND nRPOON_OVER_LEFTWARDS_HARPOON
tWITH_BARB_DOWN_ABOVE_LEFTWARDS_HARPOON_WITH_BARB_DOWN zjBELOW_LONG_DASH zjFROM_BAR zjTO_BAR ziWARDS
zeUP_ABOVE_LEFTWARDS_HARPOON_WITH_BARB_UP zoONG_DASH znRIGHTWARDS_HARPOON_WITH_BARB_DOWN zhFROM_BAR
zhTO_BAR zgWARDS mEAVY_ARROW rCOMPRESSED_ARROW lLEFT-SHADED_WHITE_ARROW lOPEN-HEADED_ARROW
lPAIRED_ARROWS lQUADRUPLE_ARROW lRIGHT-SHADED_WHITE_ARROW mOCKET lSANS-SERIF_ARROW mQUARED_ARROW
oIGGLE_ARROW lTOP_SHADED_WHITE_ARROW mRIANGLE_ARROWHEAD t-HEADED_ARROW
zh_OVER_LEFTWARDS_TRIANGLE-HEADED_ARROW ziTO_BAR ziWITH_BOLD_SHAFT znDOUBLE_HORIZONTAL_STROKE
zuVERTICAL_STROKE znHEAVY_SHAFT znLONG_TIP_DOWNWARDS zwUPWARDS znMEDIUM_SHAFT znNARROW_SHAFT
znVERY_HEAVY_SHAFT zcDASHED_ARROW zcPAIRED_ARROWS oPLE_ARROW sDASH_ARROW mWO_HEADED_ARROW
o-HEADED_ARROW_FROM_BAR zdWITH_DOUBLE_VERTICAL_STROKE ziTAIL zm_WITH_DOUBLE_VERTICAL_STROKE
zsVERTICAL_STROKE zjRIANGLE_ARROWHEADS ziVERTICAL_STROKE wTRIPLE_DASH_ARROW lWAVE_ARROW mHITE_ARROW
w_FROM_WALL xWITHIN_TRIANGLE_ARROWHEAD cNG e_ABOVE fBUOY fEQUAL_TO fIN_EQUAL_TO fOPERATOR fPOINT
eED_PLANET eING_BELL cSING_DIAGONAL_CROSSING_FALLING_DIAGONAL zSOUTH_EAST_ARROW bLE cI cM cO
bOASTED_SWEET_POTATO cBOT_FACE cCK eET cLL_OF_PAPER eED-UP_NEWSPAPER fR_COASTER hSKATE
eING_ON_THE_FLOOR_LAUGHING cMAN_AS_SIGN gCENTURIAL_SIGN gDENARIUS_SIGN hIMIDIA_SEXTULA_SIGN
hUPONDIUS_SIGN gNUMERAL_EIGHT pLEVEN oFIFTY t_EARLY_FORM uTHOUSAND qVE s_HUNDRED tTHOUSAND pOUR
oNINE oONE r_HUNDRED z_THOUSAND sTHOUSAND zb_C_D oREVERSED_ONE_HUNDRED oSEVEN pIX r_LATE_FORM oTEN
r_THOUSAND pHREE pWELVE qO gQUINARIUS_SIGN gSEMUNCIA_SIGN iSTERTIUS_SIGN iXTANS_SIGN kULA_SIGN
hILIQUA_SIGN gUNCIA_SIGN cOSTER cSE eTTE cTATED_CAPITAL_Q iFLORAL_HEART_BULLET
iHEAVY_BLACK_HEART_BULLET iLIGHT_FOUR_POINTED_BLACK_CUSP iWHITE_FOUR_POINTED_CUSP cUND_PUSHPIN
gTARGET fED_SYMBOL_FOR_CAI tFU tLU tSHOU vUANGXI tXI cWBOAT bS bUBLE_SIGN cGBY_FOOTBALL cLE-DELAYED
cMI_DIGIT_EIGHT lFIVE mOUR lNINE lONE lSEVEN mIX lTHREE mWO fFRACTION_ONE_HALF sQUARTER sTHIRD
oTWO_THIRDS fNUMBER_EIGHT_HUNDRED rY mFIFTY oVE_HUNDRED nORTY oUR_HUNDRED mNINE_HUNDRED qTY
mONE_HUNDRED mSEVEN_HUNDRED rTY nIX_HUNDRED pTY mTEN nHIRTY oREE_HUNDRED nWENTY oO_HUNDRED
cNIC_ARLAUG_SYMBOL gBELGTHOR_SYMBOL gCROSS_PUNCTUATION gLETTER_AC_A oESC oLGIZ_EOLHX oNSUZ_A
nBERKANAN_BEORC_BJARKAN_B nC oALC oEALC pN oWEORTH nD oAGAZ_DAEG_D oOTTED-L uN uP nE oAR oHWAZ_EH_E
oNG oTH nFEHU_FEOH_FE_F oRANKS_CASKET_AC zdESC zcEH zcIS zcOS nG oAR oEBO_GYFU_G pR nHAEGL_H pGLAZ_H
nICELANDIC-YR oNG qWAZ oOR oSAZ_IS_ISS_I oWAZ_EOH nJERAN_J nK oAUN_K rA nLAUKAZ_LAGU_LOGR_L
oONG-BRANCH-AR_AE zHAGALL_H zMADR_M zOSS_O zYR nMANNAZ_MAN_M nNAUDIZ_NYD_NAUD_N nO oE oN oO oPEN-P
oS_O oTHALAN_ETHEL_O nPERTHO_PEORTH_P nQ nRAIDO_RAD_REID_R nSH pORT-TWIG-AR_A yBJARKAN_B yHAGALL_H
yMADR_M yNAUD_N yOSS_O ySOL_S yTYR_T yYR oIGEL_LONG-BRANCH-SOL_S oOWILO_S oTAN nTHURISAZ_THURS_THORN
oIWAZ_TIR_TYR_T nURUZ_UR_U nV nW oUNJO_WYNN_W nX nY oR nZ gMULTIPLE_PUNCTUATION gSINGLE_PUNCTUATION
gTVIMADUR_SYMBOL dNER eING_SHIRT_WITH_SASH cPEE_SIGN cSSIAN_ASTROLOGICAL_SYMBOL_BINOVILE zdNOVILE
zdQUINTILE zdSENTAGON zdTREDECILE zdVIGINTILE"

def namesWithS : String := "
aS_IN_TRIANGLE bAFETY_PIN hVEST cGITTARIUS cILBOAT cKE_BOTTLE_AND_CUP cLT_SHAKER eIRE dUTING_FACE
cMARITAN_ABBREVIATION_MARK kLETTER_ALAF rBAA sIT rDALAT rFI rGAMAN rIN sT sY rKAAF rLABAT rMIM rNUN
rQUF rRISH rSHAN sINGAAT rTAAF sIT sSAADIY rYUT rZEN kMARK_DAGESH pEPENTHETIC_YUT pIN r-ALAF
pNEQUDAA pOCCLUSION lODIFIER_LETTER_EPENTHETIC_YUT zbI zbSHORT_A kPUNCTUATION_AFSAAQ xNGED yNAAU
xRKAANU xTMAAU wBAU wMELODIC_QITSA wNEQUDAA wQITSA wSHIYYAALAA xOF_MASHFAAT wTURU wZAEF xIQAA
kVOWEL_SIGN_A wA vE vI vLONG_A zcA zbE zbI zbU vO wVERLONG_A zgA vSHORT_A wUKUN vU cNDWICH
dS-SERIF_HEAVY_DOUBLE_COMMA_QUOTATION_MARK_ORNAMENT yTURNED_COMMA_QUOTATION_MARK_ORNAMENT
rLOW_DOUBLE_COMMA_QUOTATION_MARK_ORNAMENT lINTERROBANG_ORNAMENT cRI cTELLITE j_ANTENNA dURN
cURASHTRA_CONSONANT_SIGN_HAARU lDANDA mIGIT_EIGHT rFIVE sOUR rNINE rONE rSEVEN sIX rTHREE sWO rZERO
mOUBLE_DANDA lLETTER_A tA tI tU sBA tHA sCA tHA sDA tDA uHA tHA sE tE sGA tHA sHA sI tI sJA tHA sKA
tHA sLA tLA sMA sNA tGA tNA tYA sO tO sPA tHA sRA sSA tHA tSA sTA tHA tTA uHA sU tU sVA tOCALIC_L
zcL zbR zcR sYA lSIGN_ANUSVARA qCANDRABINDU qVIRAMA sSARGA lVOWEL_SIGN_AA xI xU wE xE wI xI wO xO wU
xU wVOCALIC_L zgL zfR zgR eOPOD cXOPHONE bCALES dRF cHOOL g_SATCHEL cI cOOTER dRPION gUS cREEN
eWDRIVER dIPT_CAPITAL_B pE pF pH pI pL pM pP pR hLIGATURE_ET_ORNAMENT hSMALL_E nG nL nO dOLL dUPLE
bEAL dT cCOND_PLACE_MEDAL dTION_SIGN eOR cDNA cE-NO-EVIL_MONKEY dDLING cGMENT hED_DIGIT_EIGHT qFIVE
rOUR qNINE qONE qSEVEN rIX qTHREE rWO qZERO cLFIE cMICOLON eDIRECT_PRODUCT_WITH_BOTTOM_CLOSED
eSEXTILE cPARATED_SYMBOL cRIOUS_FACE_WITH_SYMBOLS_COVERING_MOUTH dVICE_MARK cSAME_DOT dQUIQUADRATE
cT_MINUS eTRANSMIT_STATE cWING_NEEDLE cXTILE bGC bHADOWED_WHITE_CIRCLE pLATIN_CROSS pSTAR
dLLOW_PAN_OF_FOOD dMROCK dRADA_ABBREVIATION_SIGN iCONTINUATION_SIGN iDANDA jIGIT_EIGHT oFIVE pOUR
oNINE oONE oSEVEN pIX oTHREE pWO oZERO jOUBLE_DANDA iEKAM jXTRA_SHORT_VOWEL_MARK iHEADSTROKE
iLETTER_A qA qI qU pBA qHA pCA qHA pDA qDA rHA qHA pE pGA qHA pHA pI qI pJA qHA pKA qHA pLA qLA pMA
pNA qGA qNA qYA pO pPA qHA pRA pSA qHA qSA pTA qHA qTA rHA pU qU pVA qOCALIC_L yL xR yR pYA iOM
iSANDHI_MARK jECTION_MARK-1 v2 kPARATOR jIGN_ANUSVARA oVAGRAHA nCANDRABINDU nINVERTED_CANDRABINDU
nJIHVAMULIYA nNUKTA nSIDDHAM nUPADHMANIYA nVIRAMA pSARGA jUTRA_MARK iVOWEL_MODIFIER_MARK oSIGN_AA uI
uU tE tI uI tO tPRISHTHAMATRA_E tU uU tVOCALIC_L zdL zcR zdR eK dVED_ICE eIAN_LETTER_ADO qGE qH qIR
qRE rRAY qSH qWE pBIB pCHURCH pDEAD pEAR rT qGG qRR pFEE pGAG pHA-HA qUNG pIAN qCE qF pJUDGE pKICK
pLOLL pMEASURE qIME pNUN pOAK qIL qN qOZE qR qUT pPEEP pROAR pSO qURE pTHEY rIGH qOT pUP pVOW pWOE
rOL pYEA rW pZOO cEEP cIELD dFT_IN gOUT dNTO_SHRINE dP cOCKED_FACE_WITH_EXPLODING_HEAD dOTING_STAR
dPPING_BAGS jTROLLEY dRT_BACKSLANTED_SOUTH_ARROW hENT_ARROW_POINTING_DOWNWARDS_THEN_NORTH_EAST
gDOWN_TACK p_WITH_OVERBAR gLEFT_TACK gRIGHTWARDS_ARROW_ABOVE_LEFTWARDS_ARROW gSLANTED_NORTH_ARROW
gUP_TACK n_ABOVE_SHORT_DOWN_TACK oWITH_UNDERBAR fCAKE fHAND_FORMAT_CONTINUING_OVERLAP rDOWN_STEP
rLETTER_OVERLAP rUP_STEP fS dULDERED_OPEN_BOX dWER cRIMP dUG cUFFLE_PRODUCT cY bI cDDHAM_DANDA
jOUBLE_DANDA iEND_OF_TEXT_MARK iLETTER_A qA qI qLTERNATE_U qU pBA qHA pCA qHA pDA qDA rHA qHA pE pGA
qHA pHA pI qI pJA qHA pKA qHA pLA pMA pNA qGA qNA qYA pO pPA qHA pRA pSA qHA qSA pTA qHA
rREE-CIRCLE_ALTERNATE_I qTA rHA qWO-CIRCLE_ALTERNATE_I zmI pU qU pVA qOCALIC_L yL xR yR pYA
iREPETITION_MARK-1 y2 y3 iSECTION_MARK_DOUBLE_RING zh_WITH_RAYS vWITH_CIRCLES_AND_FOUR_ENCLOSURES
znRAYS znTWO_ENCLOSURES zbDOUBLE_CRESCENTS zbQUADRUPLE_CRESCENTS zbRAYS_AND_DOTTED_CRESCENTS
zrDOUBLE_CRESCENTS zrTRIPLE_CRESCENTS zbSEPTUPLE_CRESCENTS zbTRIDENT_AND_DOTTED_CRESCENTS
znU-SHAPED_ORNAMENTS zePLE_CRESCENTS kPARATOR_BAR sDOT jIGN_ANUSVARA nCANDRABINDU nNUKTA nSIDDHAM
nVIRAMA pSARGA iVOWEL_SIGN_AA uI uLTERNATE_U zfU uU tE tI uI tO tU uU tVOCALIC_R zdR
dEWAYS_BLACK_DOWN_POINTING_INDEX pLEFT_POINTING_INDEX pRIGHT_POINTING_INDEX pUP_POINTING_INDEX
jWHITE_DOWN_POINTING_INDEX pLEFT_POINTING_INDEX pRIGHT_POINTING_INDEX pUP_POINTING_INDEX
cGN_OF_THE_HORNS eWRITING_AIR_BLOW_SMALL_ROTATIONS uING_OUT qSUCK_SMALL_ROTATIONS uING_IN
mBREATH_EXHALE tINHALE oUSH_BETWEEN sMULTIPLE sSINGLE mCHEEKS_NEUTRAL tPUFFED tSUCKED nOLON oMMA
mDREAMY_EYEBROWS_DOWN_NEUTRAL zdNEUTRAL_DOWN zlUP zdUP_NEUTRAL nYNAMIC_ARROWHEAD_LARGE zfSMALL
uEVERY_OTHER_TIME uFAST uGRADUAL uRELAXED uSIMULTANEOUS zh_ALTERNATING vLOW uTENSE mEARS nXCITEMENT
nYE_BLINK_MULTIPLE wSINGLE qWINK pBROWS_STRAIGHT_DOWN zfNEUTRAL zfUP pGAZE-FLOORPLANE_CURVED
zgSTRAIGHT zo_ALTERNATING zpDOUBLE uWALLPLANE_CIRCLING zgURVED zfSTRAIGHT zn_ALTERNATING zoDOUBLE
pLASHES_DOWN wFLUTTERING wUP pS_CLOSED rHALF_CLOSED wOPEN rOPEN rSQUEEZED rWIDE_OPEN vNING_MOVEMENT
mFACE_DIRECTION_POSITION_NOSE_FORWARD_TILTING zqUP_OR_DOWN zzb_TILTING nILL_MODIFIER-2 zb3 zb4 zb5
zb6 oNGER nLICK_LARGE_MULTIPLE ySINGLE sSEQUENTIAL tMALL_MULTIPLE ySINGLE
oOORPLANE_SHOULDER_HIP_MOVE nOREHEAD_CONTACT vNEUTRAL vWRINKLED nULL_STOP mGRASP_BETWEEN sMULTIPLE
sSINGLE mHAIR oND-ANGLE w_INDEX zd_MIDDLE_LITTLE zlRING zeRING_LITTLE zp_OUT zeTHUMB zj_IN zkOUT
xLITTLE_INDEX zk_THUMB_INDEX_THUMB zzd_OUT zfUP xMIDDLE_RING_LITTLE zq_IN zrOUT
xRING_DOWN_MIDDLE_THUMB_INDEX_CROSS zdLITTLE rCIRCLE x_INDEX ze_BENT zfHINGE zfMIDDLE
zl_CROSS_LITTLE zrED zmLITTLE zmRING zmTHUMB zfRING_LITTLE yLITTLE_INDEX zgUP yMIDDLE_RING_LITTLE
zr_BENT zgUP yRING_LITTLE sLAW v_FOUR_FINGERS_CONJOINED wINDEX_THUMB_CURVE_THUMB_INSIDE
wMIDDLE_RING_LITTLE_CONJOINED zz_SIDE wNO_THUMB wTHUMB_FORWARD zdSIDE sUP u_FIVE_FINGERS_SPREAD
zp_OPEN vINDEX zb_RING_LITTLE zcTHUMB zh_OPEN vMIDDLE_RING_LITTLE vNO_THUMB vOPEN z_NO_THUMB
zbTHUMB_FORWARD zhSIDE vTHUMB_FORWARD zcSIDE tRLICUE z_INDEX_RING_LITTLE_ON zbMIDDLE_RING_LITTLE_ON
zbOPEN rFIST v_FOUR_FINGERS_CONJOINED_BENT wHEEL wINDEX zc_BENT zh_OVER_MIDDLE zdCUPPED zdHINGED
zj_LOW zkMIDDLE_UP zt_THUMB_SIDE zdMIDDLE zj_BENT zo_THUMB_STRAIGHT zkCONJOINED zt_CUPPED
zzb_THUMB_FORWARD zuHINGED zzb_THUMB_SIDE zuINDEX_BENT zuMIDDLE_BENT zuTHUMB_FORWARD zzbSIDE
zzf_BENT zzgCONJOINED zlROSS_LITTLE zpED zr_THUMB_SIDE zkHINGED zq_SPREAD_THUMB_SIDE zkLITTLE
zkRAISED_KNUCKLES zlING zo_BENT zpCONJOINED zkSTRAIGHT_THUMB_BENT zkTHUMB zp_ANGLED zw_OUT zqBENT
zqCIRCLED zrONJOINED_HINGED zrUPPED zqHINGED zrOOKED zkUP_SPREAD_THUMB_FORWARD zdRAISED_KNUCKLE
zeING_LITTLE zdTHUMB_ANGLED_IN_MIDDLE_UP zqOUT_MIDDLE_UP zjCIRCLE zpD_MIDDLE_UP zkUPPED_MIDDLE_UP
zlRLICUE zmVE_THUMB_INSIDE zvUNDER zjFORWARD_INDEX_BENT zxSTRAIGHT zjHOOK znED_MIDDLE_HINGED zxUP
zjSIDE zn_BOTH_BENT zoINDEX_BENT zuHINGE zoTHUMB_BENT zuCONJOINED zuDIAGONAL zdUP_MIDDLE_HINGED
zt_THUMB_CONJOINED zzbSIDE wLITTLE_BENT zeDOWN zi_OTHERS_CIRCLED zjRIPPLE_CURVED zqSTRAIGHT zeINDEX
zj_THUMB zeRAISED_KNUCKLE zeTHUMB zfOUCHES_THUMB zeUP wMIDDLE_BENT_OVER_INDEX zeDOWN zeLITTLE
zeRAISED_KNUCKLE zfING_LITTLE zeTHUMB_ANGLED_INDEX_UP zrOUT_INDEX_CROSSED zzcUP
zkCIRCLED_INDEX_HINGED zyUP zlUPPED_INDEX_UP zkHOOKED_INDEX_UP zkLITTLE zeUP zg_THUMB_SIDE
wRING_DOWN zcINDEX zcLITTLE zcMIDDLE zi_CONJOINED zjRAISED_KNUCKLES zcRAISED_KNUCKLE zcTHUMB zcUP
wTHUMB zc_BETWEEN_INDEX_MIDDLE zx_STRAIGHT zlMIDDLE_RING zlRING_LITTLE zdFORWARD zdHEEL
zdOVER_FOUR_RAISED_KNUCKLES ziTWO_FINGERS zdSIDE_BENT ziCONJOINED ziDIAGONAL zdUNDER_FOUR_FINGERS
zjINDEX_BENT zjLITTLE_UP zjTHREE_FINGERS zkWO_FINGERS sLAT v_BETWEEN_PALM_FACINGS
wFIVE_FINGERS_SPREAD zq_BENT zrFOUR_BENT zrHINGED zx_NO_THUMB zyTHUMB_SIDE zrTHUMB_FORWARD
xOUR_FINGERS zj_BENT zkCONJOINED zt_SPLIT zkHINGED wHEEL zb_FIVE_FINGERS_SPREAD zv_BENT zwFOUR_BENT
zcTHUMB_SIDE wSPLIT_CENTRE zj_THUMB_SIDE zu_BENT zdINDEX_THUMB_SIDE zdLITTLE wTHUMB_BENT zdFORWARD
zdSIDE rHINGE w_FIVE_FINGERS_SPREAD_OPEN yOUR_FINGERS_CONJOINED xINDEX zd_HINGED zeMIDDLE_LITTLE
zlRING zp_CONJOINED zeRING_LITTLE zeTHUMB zj_LARGE zkOPEN zkSIDE zlMALL xLITTLE ze_INDEX zk_THUMB
zfTHUMB xMIDDLE ze_RING_LITTLE xNO_THUMB xOPEN zc_NO_THUMB zdTHUMB_FORWARD zjSIDE xRING
zc_DOWN_INDEX_THUMB_HOOK_MIDDLE xSMALL xTHUMB_BETWEEN_MIDDLE_RING zeSIDE zi_TOUCHING_INDEX sOOK
v_CURLICUE wINDEX_RING_LITTLE_IN zpOUT zpUNDER wMIDDLE_RING_LITTLE_CONJOINED zz_IN zzbOUT zeTHUMB
wRING_THUMB rOVAL v_FIVE_FINGERS_SPREAD wINDEX wLITTLE_UP wNO_THUMB wRING_LITTLE wTHUMB_FORWARD
zdSIDE nEAD q_MOVEMENT_CIRCLE z-FLOORPLANE_CURVE zmSTRAIGHT zbWALLPLANE_CURVE zlSTRAIGHT zlTILT rRIM
mLIMB_COMBINATION rLENGTH-1 y2 y3 y4 y5 y6 y7 oP_LOWER_OVER_UPPER qUPPER_OVER_LOWER
pS_PRESSED_TOGETHER nOCATION_DEPTH vHEAD_NECK xIGHT vLIMBS_DIGITS vTORSO vWIDTH u-FLOORPLANE_SPACE
vWALLPLANE_SPACE mMOUTH_CLOSED_CONTACT zFORWARD zNEUTRAL tORNERS sFROWN x_OPEN yWRINKLED sKISS
w_FORWARD xWRINKLED sOPEN_CIRCLE xFORWARD xOVAL zc_WRINKLED zdYAWN xRECTANGLE zh_WRINKLED ziYAWN
xWRINKLED sSMILE x_OPEN yWRINKLED sTENSE x_FORWARD ySUCKED sWRINKLES_DOUBLE zcSINGLE
oVEMENT-DIAGONAL_AWAY_LARGE zpST zkMEDIUM zkSMALL zfBETWEEN_AWAY_LARGE zxST zsMEDIUM zsSMALL
znTOWARDS_LARGE zzbST zvMEDIUM zvSMALL zfTOWARDS_LARGE zsST znMEDIUM znSMALL
vFLOORPLANE_ARM_CIRCLE_HITTING_WALL_LARGE_DOUBLE zzmSINGLE zzgMEDIUM_DOUBLE zznSINGLE
zzgSMALL_DOUBLE zzmSINGLE zhBEND ziOX_LARGE zlMEDIUM zlSMALL zhCHECK ziORNER_LARGE zoMEDIUM zoSMALL
ziROSS ziURVE_COMBINED znHITTING_CEILING_LARGE zzeSMALL zvFLOOR_LARGE zzcSMALL znLARGE zsST znMEDIUM
znSMALL zhDOUBLE_ALTERNATING zz_WRIST_FLEX zoSTRAIGHT zoWRIST_FLEX
zhFINGER_CIRCLES_HITTING_WALL_DOUBLE zzkSINGLE zpONTACT zhHUMP_HITTING_CEILING_LARGE_DOUBLE
zzjTRIPLE zzdSMALL_DOUBLE zzjTRIPLE zuFLOOR_LARGE_DOUBLE zzbSMALL_DOUBLE zzbTRIPLE_LARGE_TRIPLE
zziSMALL_TRIPLE zmSMALL zhJAW zhLOOP_HITTING_CEILING_LARGE_DOUBLE zzjSINGLE zzdSMALL_DOUBLE
zzjSINGLE zuFLOOR_LARGE_DOUBLE zzhSINGLE zzbSMALL_DOUBLE zzhSINGLE zmSMALL zhPEAKS_LARGE znMEDIUM
znSMALL zhSHAKING_PARALLEL ziINGLE_STRAIGHT_LARGE zzdST zxMEDIUM zxSMALL zoWRIST_FLEX
zhTRIPLE_ALTERNATING_MOVEMENT zzbWRIST_FLEX zoSTRAIGHT_MOVEMENT zoWRIST_FLEX
zhWAVE_HITTING_CEILING_LARGE zzdSMALL zuFLOOR_LARGE zzbSMALL zmLARGE zmSMALL znNAKE
ziRIST_CIRCLE_HITTING_WALL_DOUBLE zziSINGLE zhZIGZAG_LARGE zoMEDIUM zoSMALL vHINGE_DOWN_SEQUENTIAL
zcSIDE_TO_SIDE_SCISSORS zcUP_DOWN_ALTERNATING_LARGE zwSMALL zkLARGE zkSMALL zfSEQUENTIAL
vWALLPLANE_ARM_CIRCLE_MEDIUM_DOUBLE zySINGLE zrSMALL_DOUBLE zxSINGLE zgBEND_LARGE zlMEDIUM zlSMALL
zhOX_LARGE zkMEDIUM zkSMALL zgCHECK_LARGE zmMEDIUM zmSMALL zhORNER_LARGE znMEDIUM znROTATION znSMALL
zhROSS zhURVE_HALF-CIRCLE_LARGE zzeST zyMEDIUM zySMALL znITTING_CHEST zuFRONT_WALL zmQUARTER_LARGE
zzST zuMEDIUM zuSMALL zmTHEN_STRAIGHT zoREE-QUARTER_CIRCLE_MEDIUM zziSMALL zlD_CROSS_MEDIUM ztSMALL
zgDOUBLE_ALTERNATING zy_WRIST_FLEX znSTRAIGHT znWRIST_FLEX zgFINGER_CIRCLES_DOUBLE zvSINGLE zoONTACT
zgHUMP_HITTING_CHEST ztFRONT_WALL zlLARGE zlMEDIUM zlSMALL zgJAW zgLOOP_HITTING_CHEST ztFRONT_WALL
zlLARGE zlMEDIUM zlSMALL zq_DOUBLE zgPEAKS_LARGE zmMEDIUM zmSMALL zgSHAKING zhINGLE_STRAIGHT_LARGE
zzcST zwMEDIUM zwSMALL znWRIST_FLEX zgTRIPLE_ALTERNATING zy_WRIST_FLEX znSTRAIGHT_MOVEMENT
znWRIST_FLEX zgWAVE_CURVE_DOUBLE_LARGE zyMEDIUM zySMALL zrTRIPLE_LARGE zyMEDIUM zySMALL
zlDIAGONAL_PATH_LARGE zzMEDIUM zzSMALL zlHITTING_CHEST ztFRONT_WALL zhRIST_CIRCLE_FRONT_DOUBLE
zzSINGLE zgZIGZAG_LARGE znMEDIUM znSMALL mNECK nOSE_CONTACT rNEUTRAL rWIGGLES sRINKLES mPARENTHESIS
mROTATION_MODIFIER-10 zg1 zg2 zg3 zg4 zg5 zg6 zf2 zf3 zf4 zf5 zf6 zf7 zf8 zf9
u-FLOORPLANE_ALTERNATING zs_HITTING_CEILING zzcFLOOR zhDOUBLE zn_HITTING_CEILING zwFLOOR zhSINGLE
zn_HITTING_CEILING zwFLOOR vWALLPLANE_ALTERNATE zoING_HITTING_CHEST zzbFRONT_WALL zgDOUBLE
zm_HITTING_CHEST zvFRONT_WALL zgSINGLE zm_HITTING_CHEST zvFRONT_WALL nUB_BETWEEN qMULTIPLE qSINGLE
mSEMICOLON nHOULDER_HIP_POSITIONS zSPINE vTILTING_FROM_WAIST nQUEEZE_FLICK_ALTERNATING
uLARGE_MULTIPLE zbSINGLE uSEQUENTIAL vMALL_MULTIPLE zbSINGLE nTRIKE_BETWEEN tMULTIPLE tSINGLE
nURFACE_BETWEEN uSYMBOLS mTEETH r_BITE_LIPS sMOVEMENT sON_LIPS z_MOVEMENT vTONGUE zc_MOVEMENT
oNSE_CHEEKS_HIGH zLOW zMIDDLE nONGUE_CENTRE_INSIDE_MOUTH zbSTICKING_OUT tINSIDE_MOUTH_RELAXED
tLICKING_LIPS tMOVES_AGAINST_CHEEK tSTICKING_OUT_FAR tTIP_BETWEEN_LIPS xTOUCHING_INSIDE_MOUTH
oRSO-FLOORPLANE_TWISTING sWALLPLANE_CURVED_BEND zdSTRAIGHT_STRETCH oUCH_BETWEEN sMULTIPLE sSINGLE
nRAVEL-FLOORPLANE_ROTATION-FLOORPLANE_ALTERNATING zzDOUBLE zzSINGLE zoWALLPLANE_ALTERNATING zyDOUBLE
zySINGLE zfSHAKING tWALLPLANE_ARM_SPIRAL_DOUBLE zpSINGLE zpTRIPLE zeROTATION-FLOORPLANE_ALTERNATING
zyDOUBLE zySINGLE znWALLPLANE_ALTERNATING zxDOUBLE zxSINGLE zeSHAKING
mUPPER_BODY_TILTING_FROM_HIP_JOINTS mWALLPLANE_SHOULDER_HIP_MOVE cLHOUETTE_OF_JAPAN
cMILAR_ABOVE_GREATER-THAN_ABOVE_EQUALS_SIGN oLESS-THAN_ABOVE_EQUALS_SIGN iMINUS_SIMILAR
iOR_GREATER-THAN lLESS-THAN cNE_WAVE dGLE_CHARACTER_INTRODUCER hGRAPHIC_CHARACTER_INTRODUCER
hHIGH-REVERSED-9_QUOTATION_MARK hLEFT-POINTING_ANGLE_QUOTATION_MARK iOW-9_QUOTATION_MARK
hRIGHT-POINTING_ANGLE_QUOTATION_MARK hSHIFT_THREE oWO g-SHIFT-2 n3 dHALA_ARCHAIC_DIGIT_EIGHT wFIVE
xOUR wNINE wONE wSEVEN xIX wTHREE xWO qNUMBER_EIGHTY xFIFTY yORTY xNINETY xONE_HUNDRED zcTHOUSAND
xSEVENTY yIXTY xTEN yHIRTY yWENTY iLETTER_AAYANNA qEEYANNA rYANNA qIYANNA qLPAPRAANA_BAYANNA
zbCAYANNA zbDAYANNA zcDAYANNA zbGAYANNA zbJAYANNA zbKAYANNA zbPAYANNA zbTAYANNA zcTAYANNA
qMBA_BAYANNA qUYANNA qYANNA pDANTAJA_LAYANNA xNAYANNA xSAYANNA pEEYANNA qYANNA pFAYANNA pHAYANNA
pIIYANNA qLUUYANNA sYANNA qRUUYANNA sYANNA qYANNA pKANTAJA_NAASIKYAYA pMAHAAPRAANA_BAYANNA zcCAYANNA
zcDAYANNA zdDAYANNA zcGAYANNA zcJAYANNA zcKAYANNA zcPAYANNA zcTAYANNA zdTAYANNA rYANNA
qUURDHAJA_LAYANNA zNAYANNA zSAYANNA pOOYANNA qYANNA pRAYANNA pSANYAKA_DAYANNA yDAYANNA xGAYANNA
xJAYANNA pTAALUJA_NAASIKYAYA xSANYOOGA_NAAKSIKYAYA zYANNA pUUYANNA qYANNA pVAYANNA pYAYANNA
jITH_DIGIT_EIGHT tFIVE uOUR tNINE tONE tSEVEN uIX tTHREE uWO tZERO iPUNCTUATION_KUNDDALIYA
iSIGN_AL-LAKUNA oNUSVARAYA nCANDRABINDU nVISARGAYA iVOWEL_SIGN_AELA-PILLA tDIGA_AEDA-PILLA
yGAETTA-PILLA zbYANUKITTA yIS-PILLA yKOMBUVA yPAA-PILLA tGAETTA-PILLA vYANUKITTA tKETTI_AEDA-PILLA
zIS-PILLA zPAA-PILLA uOMBU_DEKA yVA zb_HAA_AELA-PILLA zgDIGA_AELA-PILLA zgGAYANUKITTA
cX_PETALLED_BLACK_AND_WHITE_FLORETTE fOINTED_BLACK_STAR mPINWHEEL_STAR mSTAR_WITH_MIDDLE_DOT
d-PER-EM_SPACE dTEEN_POINTED_ASTERISK bKATEBOARD cI_AND_SKI_BOOT dER cULL f_AND_CROSSBONES dNK
bLANTED_EQUAL_TO_OR_GREATER-THAN zh_WITH_DOT_INSIDE uLESS-THAN ze_WITH_DOT_INSIDE
iNORTH_ARROW_WITH_HOOKED_HEAD zcRIZONTAL_TAIL dVONIC_ASTERISK cED dEPING_ACCOMMODATION jFACE jSYMBOL
fY_FACE dUTH_OR_SPY cICE_OF_PIZZA dGHTLY_FROWNING_FACE jSMILING_FACE cOPE eING_LARGE_AND oOR
dT_MACHINE eH bMALL_AIRPLANE hMPERSAND hSTERISK gBLUE_DIAMOND gCOLON iMMA kERCIAL_AT
iNTAINS_AS_MEMBER pWITH_OVERBAR uVERTICAL_BAR_AT_END_OF_HORIZONTAL_STROKE gDOLLAR_SIGN gELEMENT_OF
q_WITH_OVERBAR wVERTICAL_BAR_AT_END_OF_HORIZONTAL_STROKE hM_DASH hQUALS_SIGN hXCLAMATION_MARK
gFULL_STOP gGREATER-THAN_SIGN gHYPHEN-MINUS gIDEOGRAPHIC_COMMA gLEFT_CURLY_BRACKET lPARENTHESIS
lTORTOISE_SHELL_BRACKET iSS-THAN_SIGN gNUMBER_SIGN gORANGE_DIAMOND gPERCENT_SIGN hLUS_SIGN
gQUESTION_MARK gREVERSE_SOLIDUS hIGHT_CURLY_BRACKET mPARENTHESIS mTORTOISE_SHELL_BRACKET
hOMAN_NUMERAL_EIGHT vLEVEN uFIFTY wVE y_HUNDRED vOUR uNINE uONE x_HUNDRED yTHOUSAND uSEVEN vIX uTEN
vHREE vWELVE wO gSEMICOLON gTILDE hWO_DOTS_OVER_ONE_DOT_PUNCTUATION gVEE_WITH_UNDERBAR fER_THAN
m_OR_EQUAL_TO dSH_PRODUCT cILE eING_CAT_FACE_WITH_HEART-SHAPED_EYES wOPEN_MOUTH iFACE_WITH_HALO
tEART-SHAPED_EYES tORNS sOPEN_MOUTH zd_AND_COLD_SWEAT ziSMILING_EYES ziTIGHTLY-CLOSED_EYES
sSMILING_EYES zf_AND_HAND_COVERING_MOUTH zkTHREE_HEARTS tUNGLASSES sTEAR dRKING_FACE cOKING_SYMBOL
bNAIL dKE cEEZING_FACE cOW_CAPPED_MOUNTAIN eBOARDER eFLAKE eMAN h_WITHOUT_SNOW bO cCCER_BALL dKS
cFT_HYPHEN fICE_CREAM fSHELL_FLOPPY_DISK eBALL eWARE-FUNCTION_SYMBOL cGDIAN_COMBINING_CURVE_ABOVE
yBELOW sDOT_ABOVE wBELOW sHOOK_ABOVE xBELOW sLONG_HOOK_BELOW sRESH_BELOW sSTROKE_BELOW
sTWO_DOTS_ABOVE zcBELOW iINDEPENDENT_SHIN iLETTER_ALEPH qYIN pBETH pFETH pGIMEL pHE rTH pKAPH
pLAMEDH qESH pMEM pNUN pPE pRESH-AYIN pSADHE rMEKH qHIN pTAW pWAW pYODH pZAYIN iNUMBER_ONE s_HUNDRED
pTEN qWENTY iPUNCTUATION_CIRCLE_WITH_DOT uHALF_CIRCLE_WITH_DOT uTWO_CIRCLES_WITH_DOTS yVERTICAL_BARS
zm_WITH_DOTS cH cLID_QUILT_SQUARE_ORNAMENT zc_IN_BLACK_SQUARE fUS h_WITH_OVERBAR cM_SIGN
cON_WITH_RIGHTWARDS_ARROW_ABOVE cRA_SOMPENG_DIGIT_EIGHT tFIVE uOUR tNINE tONE tSEVEN uIX tTHREE uWO
tZERO nLETTER_AH uBAH uCAH uDAH uEEH vH uGAH uHAH uIH uJAH uKAH uLAH uMAE wH uNAH vGAH vYAH uOH uPAH
uRAH uSAH uTAH uUH uVAH uYAH cS cUND_RECORDING_COPYRIGHT dTH_EAST_ARROW q_AND_SOUTH_WEST_ARROW
rCROSSING_NORTH_EAST_ARROW rTO_CORNER rWITH_HOOK lBLACK_ARROW lDOUBLE_ARROW lPOINTING_BUD uLEAF
uVINE_LEAF lSANS-SERIF_ARROW lTRIANGLE-HEADED_ARROW zh_TO_BAR lWHITE_ARROW gWEST_ARROW
q_AND_NORTH_WEST_ARROW rWITH_HOOK lBLACK_ARROW lDOUBLE_ARROW lPOINTING_BUD uLEAF uVINE_LEAF
lSANS-SERIF_ARROW lTRIANGLE-HEADED_ARROW zh_TO_BAR lWHITE_ARROW cYOMBO_CLUSTER-INITIAL_LETTER_LA
zgRA zgSA zhHA iFINAL_CONSONANT_SIGN_-A zeB zeD zeG zeK zeL zeM zeN zfG zeR zeS zfH iGEMINATION_MARK
iHEAD_MARK_WITH_MOON_AND_SUN zk_AND_FLAME zpTRIPLE_FLAME iLETTER_-A pA pBA qHA pCA qHA pDA qDA rHA
qHA qZA pGA qHA pHA pJA qHA pKA qHA qSSA pLA pMA pNA qGA qNA qYA pPA qHA pRA pSA qHA qSA pTA qHA qSA
rHA qTA rHA pVA pYA pZA qHA iMARK_DOUBLE_SHAD nPLUTA nSHAD nTSHEG iSIGN_ANUSVARA nJIHVAMULIYA
nUPADHMANIYA nVISARGA jUBJOINER iTERMINAL_MARK-1 w2 iVOWEL_LENGTH_MARK oSIGN_AI uU tE tI tO uE tU uE
tVOCALIC_L zcR bP cA dCE dGHETTI dRKLE hS gING_HEART cEAK-NO-EVIL_MONKEY fER
h_WITH_CANCELLATION_STROKE nONE_SOUND_WAVE nTHREE_SOUND_WAVES fING_HEAD_IN_SILHOUETTE dECH_BALLOON
eDBOAT dSMILO_SIGN cHERICAL_ANGLE p_OPENING_LEFT yUP cIDER g_WEB dRAL_CALENDAR_PAD hNOTE_PAD hSHELL
cLASHING_SWEAT_SYMBOL cONGE dOL_OF_THREAD eN dRTS_MEDAL dUTING_WHALE bQUARE_A_OVER_M iARU iM iNPEA
iPAATO iRUHUA iU hBAARERU jR iEETA iIRU iORUTO iQ iUSSYERU hC_OVER_KG iAL jP iC iD iM j_CUBED
kSQUARED iO jRPORATION iUP hDA jASU iB iESI iJ iL iM j_CUBED kSQUARED iORU hEEKAA iRA_NAME_HEISEI
qMEIZI qREIWA qSYOUWA qTAISYOU jG iSUKUUDO iV hFM iOOT jUR_CORNERS hGAL jNMA jRON iB iHZ iIGA jNII
jRUDAA iPA iURAMU nTON iY hHA jITU iEKUTAARU jRUTU iG iIRAGANA_HOKA iON jON kRU iP jA iUARADDO jIITO
jRAN iZ hIMAGE_OF p_OR_EQUAL_TO tNOT_EQUAL_TO iN jINGU jTI iU hK_OHM iA jIRI jRATTO kORII iB iCAL
iEESU iG iHZ iIRO lGURAMU lMEETORU lWATTO iK iL iM j_CAPITAL lUBED kSQUARED iOOPO jRUNA iPA iT
iUROONE kUZEIRO iV iW iYURII hLEFT_OPEN_BOX_OPERATOR iM iN iOG jZENGE iX hM_CUBED jOHM kVER_S
p_SQUARED jSQUARED iA jHHA jIKURO kRU jNSYON jRUKU iB j_SMALL iEETORU jGA lTON iG iHZ iIKURON jL jRI
lBAARU iL iM j_CUBED kSQUARED iOL iPA iS iU_A kF kG kL kM kS kV kW iV j_MEGA iW j_MEGA hNA jNO iF iM
iOTTO iS iV iW hONSU iOMU iRIGINAL_OF s_OR_EQUAL_TO wNOT_EQUAL_TO iV hPA j_AMPS jASENTO kTU iC iEEZI
jNIHI kSU jSO iF iH iIASUTORU jKO kURU iM iOINTO jNDO jSITION_INDICATOR iPM iR iS iV iW hRAD
k_OVER_S r_SQUARED iEMU jNTOGEN iIGHT_OPEN_BOX_OPERATOR jRA jTTORU iOOT iUPII jUBURU hSAIKURU
jNTIIMU iENTI lO iIRINGU iR iV hTARGET iHZ iON hUON hV_OVER_M hWATTO iB iITH_BOTTOM_HALF_BLACK
mCONTOURED_OUTLINE mDIAGONAL_CROSSHATCH_FILL mHORIZONTAL_FILL mLEFT_HALF_BLACK
nOWER_LEFT_DIAGONAL_HALF_BLACK sRIGHT_DIAGONAL_HALF_BLACK mORTHOGONAL_CROSSHATCH_FILL
mRIGHT_HALF_BLACK mTOP_HALF_BLACK mUPPER_LEFT_DIAGONAL_HALF_BLACK xTO_LOWER_RIGHT_FILL
sRIGHT_DIAGONAL_HALF_BLACK yTO_LOWER_LEFT_FILL mVERTICAL_FILL hYAADO kRU iUAN gD_ASTERISK
iCJK_UNIFIED_IDEOGRAPH-4E00 zi9 zh2D zh8C zhA4 zf518D zg21D zh4D zh72 zg3CC zhF3 zg408 zh39 zg5B6
zg8F0 zg91A zh29 zgB57 zgDE6 zgF8C zf624B zh53 zh95 zg307 zh55 zg599 zhB0 zg620 zg708 zi9 zgE80
zgF14 zf7121 zg51F zh33 zg981 zgA7A zgD42 zf89E3 zgCA9 zgD70 zf904A zg14D jL jOOL iDOT_OPERATOR
iEIGHT_K iFALLING_DIAGONAL_SLASH jIVE_POINT_ONE jOUR_DOT_PUNCTUATION nK jREE iHC jDR jI-RES jV iID
iKATAKANA_DE rKOKO rSA jEY iLATIN_CAPITAL_LETTER_A zeB zeC zeD zeE zeF zeG zeH zeI zeJ zeK zeL zeM
zeN zeO zeP zeQ zeR zeS zeT zeU zeV zeW zeX zeY zeZ oSMALL_LETTER_D jOGICAL_AND qOR kSSLESS iMINUS
jV iNEW jG iOK jNE_HUNDRED_TWENTY_P iPLUS jPV iRISING_DIAGONAL_SLASH iSALTIRE jD jECOND_SCREEN
kVEN_POINT_ONE jHV jIXTY_P jMALL_CIRCLE jOS jQUARE jS iTHREE_D jIMES jWENTY-TWO_POINT_TWO kO_K iUHD
jP_WITH_EXCLAMATION_MARK iVOD jS iWC eT_BLACK_RIGHTWARDS_ARROW dID bS2 c3 cA bT cADIUM
dFF_OF_AESCULAPIUS jHERMES dMPED_ENVELOPE dNDING_PERSON dR_AND_CRESCENT fEQUALS fOF_DAVID gPERATOR
fWITH_LEFT_HALF_BLACK kRIGHT_HALF_BLACK eT_OF_GUARDED_AREA jHEADING jPROTECTED_AREA jSELECTED_AREA
kTRING jTEXT dTION eUE_OF_LIBERTY cEAM_LOCOMOTIVE fING_BOWL dNOGRAPHIC_FULL_STOP dTHOSCOPE
cICK_FIGURE m_LEANING_LEFT vRIGHT nWITH_ARMS_RAISED sDRESS cOCK_CHART dPWATCH cRAIGHT_RULER iNESS
eWBERRY dESS_OUTLINED_WHITE_STAR dICTLY_EQUIVALENT_TO eNG_TERMINATOR cS cUDIO_MICROPHONE
dFFED_FLATBREAD dPA cX bUB dSCRIPT_EIGHT lQUALS_SIGN kFIVE lOUR kLEFT_PARENTHESIS kMINUS kNINE kONE
kPLUS_SIGN kRIGHT_PARENTHESIS kSEVEN lIX kTHREE lWO kZERO eET_ABOVE_RIGHTWARDS_ARROW nSUBSET pPERSET
hOF j_ABOVE_ALMOST_EQUAL_TO qEQUALS_SIGN qNOT_EQUAL_TO qTILDE_OPERATOR kOR_EQUAL_TO v_WITH_DOT_ABOVE
kWITH_NOT_EQUAL_TO hWITH_DOT mMULTIPLICATION_SIGN_BELOW mPLUS_SIGN_BELOW eTITUTE cCCEEDS
i_ABOVE_ALMOST_EQUAL_TO pEQUALS_SIGN pNOT_ALMOST_EQUAL_TO tEQUAL_TO pSINGLE-LINE_EQUALS_SIGN
zcNOT_EQUAL_TO jBUT_NOT_EQUIVALENT_TO jOR_EQUAL_TO pIVALENT_TO jUNDER_RELATION cMMATION_BOTTOM kTOP
kWITH_INTEGRAL cN d_BEHIND_CLOUD eWITH_FACE dDANESE_AVAGRAHA kCONSONANT_SIGN_PAMINGKAL zcNYAKRA
zeIKU zcSANGAN_MA zjWA kDIGIT_EIGHT qFIVE rOUR qNINE qONE qSEVEN rIX qTHREE rWO qZERO kLETTER_A sE
rBA sHA rCA rDA rE sU rFA sINAL_K xM rGA rHA rI rJA rKA sHA rLA sEU rMA rNA sGA sYA rO rPA rQA rRA
sEU rSA sYA rTA rU rVA rWA rXA rYA rZA kPUNCTUATION_BINDU_BA_SATANGA zdCAKRA zdDA_SATANGA
zdKA_SATANGA zdLEU_SATANGA zdPANGLONG zeURNAMA zdSURYA kSIGN_PAMAAEH rNGLAYAR tWISAD sYECEK pVIRAMA
kVOWEL_SIGN_PAMEPET xNAELAENG yEULEUNG yGHULU yOLONG yYUKU dFLOWER dRISE h_OVER_MOUNTAINS
dSET_OVER_BUILDINGS cPERHERO fSCRIPT_EIGHT nQUALS_SIGN mFIVE nOUR mLATIN_SMALL_LETTER_I zgN
nEFT_PARENTHESIS mMINUS mNINE mONE mPLUS_SIGN mRIGHT_PARENTHESIS mSEVEN nIX mTHREE nWO mZERO
gET_ABOVE_LEFTWARDS_ARROW pSUBSET rPERSET jBESIDE_AND_JOINED_BY_DASH_WITH_SUBSET qSUBSET jOF
l_ABOVE_ALMOST_EQUAL_TO sEQUALS_SIGN sNOT_EQUAL_TO sTILDE_OPERATOR mOR_EQUAL_TO x_WITH_DOT_ABOVE
mWITH_NOT_EQUAL_TO jPRECEDING_SOLIDUS jWITH_DOT oMULTIPLICATION_SIGN_BELOW oPLUS_SIGN_BELOW fVILLAIN
cRFACE_INTEGRAL eER cSHI dPENSION_RAILWAY bWAN dSH_AMPERSAND_ORNAMENT cIMMER cUNG_DASH
bYLOTI_NAGRI_LETTER_A uBHO vO uCHO vO uDDHO wO vHO vO uE uGHO vO uHO uI uJHO vO uKHO vO uLO uMO uNO
uO uPHO vO uRO vRO uSO uTHO vO vTHO wO uU nPOETRY_MARK-1 z2 z3 z4 nSIGN_ALTERNATE_HASANTA tNUSVARA
sDVISVARA sHASANTA nVOWEL_SIGN_A yE yI yOO yU cMBOL_FOR_ACKNOWLEDGE lBACKSPACE mELL lCANCEL
nRRIAGE_RETURN lDATA_LINK_ESCAPE mELETE r_FORM_TWO nVICE_CONTROL_FOUR zbONE zbTHREE zcWO
lEND_OF_MEDIUM sTEXT tRANSMISSION zf_BLOCK nQUIRY mSCAPE lFILE_SEPARATOR mORM_FEED lGROUP_SEPARATOR
lHORIZONTAL_TABULATION lLINE_FEED lMARKS_CHAPTER lNEGATIVE_ACKNOWLEDGE nWLINE mULL lRECORD_SEPARATOR
lSAMARITAN_SOURCE mHIFT_IN rOUT mPACE mTART_OF_HEADING uTEXT mUBSTITUTE v_FORM_TWO mYNCHRONOUS_IDLE
lTYPE_A_ELECTRONICS lUNIT_SEPARATOR lVERTICAL_TABULATION dMETRY cN dAGOGUE dCHRONOUS_IDLE
cRIAC_ABBREVIATION_MARK hBARREKH hCOLON_SKEWED_LEFT uRIGHT jNTRACTION hDOTTED_ZLAMA_ANGULAR
uHORIZONTAL hEND_OF_PARAGRAPH iSASA_ABOVE nBELOW hFEMININE_DOT hHARKLEAN_ASTERISCUS qMETOBELUS
qOBELUS iBASA_ABOVE nBELOW m-ESASA_DOTTED iORIZONTAL_COLON hLETTER_ALAPH oBETH oDALATH
pOTLESS_DALATH_RISH oE oFINAL_SEMKATH oGAMAL t_GARSHUNI oHE qTH oKAPH oLAMADH oMALAYALAM_BHA yJA
yLLA zbLA yNGA zNA zbNA zYA yRA ySSA yTTA pIM oNUN oPE qRSIAN_BHETH wDHALATH wGHAMAL oQAPH
oREVERSED_PE pISH oSADHE pEMKATH pHIN pOGDIAN_FE wKHAPH wZHAIN pUPERSCRIPT_ALAPH oTAW pETH
s_GARSHUNI oWAW oYUDH s_HE oZAIN hMUSIC hOBLIQUE_LINE_ABOVE uBELOW hPTHAHA_ABOVE oBELOW oDOTTED
hQUSHSHAYA hRBASA_ABOVE nBELOW iUKKAKHA iWAHA hSUBLINEAR_COLON w_SKEWED_LEFT zfRIGHT rFULL_STOP
jPRALINEAR_COLON y_SKEWED_LEFT tFULL_STOP hTHREE_DOTS_ABOVE sBELOW iWO_VERTICAL_DOTS_ABOVE zBELOW
hZQAPHA_ABOVE oBELOW oDOTTED eNGE"

def namesWithT : String := "
aT-REX cSHIRT bAB dLE_TENNIS_PADDLE_AND_BALL cCO cG_AMPERSAND fPOSTROPHE fSTERISK eCIRCUMFLEX_ACCENT
fOLON gMMA iERCIAL_AT eDIGIT_EIGHT kFIVE lOUR kNINE kONE kSEVEN lIX kTHREE lWO kZERO fOLLAR_SIGN
eEQUALS_SIGN fXCLAMATION_MARK eFULL_STOP eGRAVE_ACCENT gEATER-THAN_SIGN eHYPHEN-MINUS
eLATIN_CAPITAL_LETTER_A zB zC zD zE zF zG zH zI zJ zK zL zM zN zO zP zQ zR zS zT zU zV zW zX zY zZ
kSMALL_LETTER_A xB xC xD xE xF xG xH xI xJ xK xL xM xN xO xP xQ xR xS xT xU xV xW xX xY xZ
fEFT_CURLY_BRACKET jPARENTHESIS jSQUARE_BRACKET gSS-THAN_SIGN fOW_LINE eNUMBER_SIGN ePERCENT_SIGN
fLUS_SIGN eQUESTION_MARK gOTATION_MARK eREVERSE_SOLIDUS fIGHT_CURLY_BRACKET kPARENTHESIS
kSQUARE_BRACKET eSEMICOLON fOLIDUS fPACE eTILDE eVERTICAL_LINE dALOG_LETTER_A qRCHAIC_RA pBA pDA pGA
pHA pI pKA pLA pMA pNA qGA pPA pRA pSA pTA pU pWA pYA iSIGN_PAMUDPOD nVIRAMA iVOWEL_SIGN_I tU
dBANWA_LETTER_A qBA qDA qGA qI qKA qLA qMA qNA rGA qPA qSA qTA qU qWA qYA jVOWEL_SIGN_I uU
cI_LE_LETTER_A pI pUE oE pE pH oFA oHA oI oKA pHA oLA oMA oNA pGA oO pO oPA pHA oQA oSA oTA pHA
pONE-2 t3 t4 t5 t6 pSA qHA oU pE oVA oXA oYA eTHAM_COMBINING_CRYPTOGRAMMIC_DOT lNSONANT_SIGN_BA
yFINAL_NGA yHIGH_RATHA_OR_LOW_PA yLA_TANG_LAI zOW_PA yMA zEDIAL_LA zgRA ySA jHORA_DIGIT_EIGHT uFIVE
vOUR uNINE uONE uSEVEN vIX uTHREE vWO uZERO jLETTER_A qBA qDA qEE qGREAT_SA qHIGH_CA wHA vFA vHA vKA
wHA wXA vPA wHA vRATHA vSA wHA wSA vTA wHA vYA qI rI qLA sE rLA rOW_CA vHA uFA uHA uKA vHA vXA uPA
vHA uRATHA uSA uTA vHA uYA rUE qMA qNA rGA rYA qOO qRA sNA sTA rUE qU rU qWA jSIGN_CAANG oDOKMAI
oHANG pOY oKAAN sKUU pEOW pHUEN_TONE-3 z4 z5 t-LUE_KARAN oMAI_KANG w_LAI sSAM sYAMOK oRA_HAAM
pEVERSED_ROTATED_RANA oSAKOT qTKAAN vKUU qWAN oTONE-1 t2 oWIANG tWAAK jTHAM_DIGIT_EIGHT uFIVE vOUR
uNINE uONE uSEVEN vIX uTHREE vWO uZERO jVOWEL_SIGN_A vA vE vI uE uI vI uMAI_SAT uO vA_ABOVE xBELOW
vO vY uTALL_AA vHAM_AI uU vE vU wE eVIET_LETTER_HIGH_BO vCHO wO vDO vFO vGO vHO vKHHO xO wO vLO vMO
vNGO wO wYO vO vPHO wO vRO vSO vTHO wO vVO vYO qLOW_BO uCHO vO uDO uFO uGO uHO uKHHO wO vO uLO uMO
uNGO vO vYO uO uPHO vO uRO uSO uTHO vO uVO uYO jMAI_KANG oHIT jSYMBOL_HO_HOI qKOI_KOI sN qNUENG qSAM
jTONE_MAI_EK sNUENG sSONG sTHO jVOWEL_AA qM qN qUE qY pE pI qA pO pU qA qE rA cKEOUT_BOX
dRI_ABBREVIATION_SIGN gDIGIT_EIGHT mFIVE nOUR mNINE mONE mSEVEN nIX mTHREE nWO mZERO gLETTER_A oA oI
oRCHAIC_KHA oU nBA oHA nCA oHA nDA oDA pHA oHA nE nGA oHA nHA nI oI nJA oHA nKA oHA nLA nMA nNA oGA
oNA oYA nO nPA oHA nRA oRA nSA oHA nTA oHA oTA pHA nU oU nVA nYA gSIGN_ANUSVARA lNUKTA lVIRAMA
nSARGA gVOWEL_SIGN_AA sI sU rE rI sI rO rU sU cLLY_MARK_FIVE lONE cMALE dIL_AND_ODD_SIGN
hS_ABOVE_SIGN hU_LENGTH_MARK gCREDIT_SIGN hURRENT_SIGN gDAY_SIGN hEBIT_SIGN hIGIT_EIGHT mFIVE nOUR
mNINE mONE mSEVEN nIX mTHREE nWO mZERO hRY_CULTIVATION_SIGN gFRACTION_DOWNSCALING_FACTOR_KIIZH
pONE_EIGHTH yIETH tFIFTH uORTIETH tHALF-1 y2 tONE-HUNDRED-AND-SIXTIETH tQUARTER tSIXTEENTH-1 ze2
xY-FOURTH tTENTH uHIRTY-SECOND vREE-HUNDRED-AND-TWENTIETH uWENTIETH pTHREE_EIGHTIETHS vQUARTERS
vSIXTEENTHS zY-FOURTHS vTWENTIETHS gIN_POSSESSION_SIGN gLAND_SIGN hETTER_A oA oI oU nCA nE oE nHA nI
oI nJA nKA nLA oLA pLA nMA nNA oGA oNA pNA oYA nO oO nPA nRA oRA nSA oHA oSA nTA oTA nU oU nVA nYA
gMONTH_SIGN gNUMBER_ONE_HUNDRED rTHOUSAND nSIGN nTEN gOM gPUNCTUATION_END_OF_TEXT gRUPEE_SIGN
gSALT_PAN_SIGN hIGN_AAZHAAKKU mNUSVARA lCEVITU lKAACU mURUNI nZHI lMUKKURUNI nTHALIYA nUVUZHAKKU
lNEL lPAARAM nNAM nTHAKKU mON lUZHAKKU lVAKAIYARAA nRAAKAN mELI mIRAMA nSARGA hPENT_SIGN
hTARTING_FROM_SIGN gTOTAL_SIGN hRADITIONAL_CREDIT_SIGN sNUMBER_SIGN gVOWEL_SIGN_AA sI sU rE sE rI sI
rO sO rU sU gWET_CULTIVATION_SIGN gYEAR_SIGN cNABATA_TREE dGERINE eSA_DIGIT_EIGHT nFIVE oOUR nNINE
nONE nSEVEN oIX nTHREE oWO nZERO hLETTER_AC pQ pWC qQ qX qZ pX pZ oBA oCA pHA oDA pHA oEC pQ pX pZ
oFA pINAL_NG oGA pHA oHA pTA qTA oIC pQ pX pZ oKA pHA oLA pONG_UEX oMA pC pQ pX pZ oNA pGA pHA pYA
oOC pQ pX pZ oPA pHA oRA oSA pHA qORT_AWX uUEZ oTA pHA pSA oUC pEC qQ qX qZ pIC qQ qUC rQ rX rZ qX
qZ pQ pX pZ oVC pQ pX pZ oWA oXA oYA oZA eUT_COMPONENT-001 t2 t3 t4 t5 t6 t7 t8 t9 s10 t1 t2 t3 t4
t5 t6 t7 t8 t9 s20 t1 t2 t3 t4 t5 t6 t7 t8 t9 s30 t1 t2 t3 t4 t5 t6 t7 t8 t9 s40 t1 t2 t3 t4 t5 t6
t7 t8 t9 s50 t1 t2 t3 t4 t5 t6 t7 t8 t9 s60 t1 t2 t3 t4 t5 t6 t7 t8 t9 s70 t1 t2 t3 t4 t5 t6 t7 t8
t9 s80 t1 t2 t3 t4 t5 t6 t7 t8 t9 s90 t1 t2 t3 t4 t5 t6 t7 t8 t9 r100 t1 t2 t3 t4 t5 t6 t7 t8 t9 s10
t1 t2 t3 t4 t5 t6 t7 t8 t9 s20 t1 t2 t3 t4 t5 t6 t7 t8 t9 s30 t1 t2 t3 t4 t5 t6 t7 t8 t9 s40 t1 t2
t3 t4 t5 t6 t7 t8 t9 s50 t1 t2 t3 t4 t5 t6 t7 t8 t9 s60 t1 t2 t3 t4 t5 t6 t7 t8 t9 s70 t1 t2 t3 t4
t5 t6 t7 t8 t9 s80 t1 t2 t3 t4 t5 t6 t7 t8 t9 s90 t1 t2 t3 t4 t5 t6 t7 t8 t9 r200 t1 t2 t3 t4 t5 t6
t7 t8 t9 s10 t1 t2 t3 t4 t5 t6 t7 t8 t9 s20 t1 t2 t3 t4 t5 t6 t7 t8 t9 s30 t1 t2 t3 t4 t5 t6 t7 t8
t9 s40 t1 t2 t3 t4 t5 t6 t7 t8 t9 s50 t1 t2 t3 t4 t5 t6 t7 t8 t9 s60 t1 t2 t3 t4 t5 t6 t7 t8 t9 s70
t1 t2 t3 t4 t5 t6 t7 t8 t9 s80 t1 t2 t3 t4 t5 t6 t7 t8 t9 s90 t1 t2 t3 t4 t5 t6 t7 t8 t9 r300 t1 t2
t3 t4 t5 t6 t7 t8 t9 s10 t1 t2 t3 t4 t5 t6 t7 t8 t9 s20 t1 t2 t3 t4 t5 t6 t7 t8 t9 s30 t1 t2 t3 t4
t5 t6 t7 t8 t9 s40 t1 t2 t3 t4 t5 t6 t7 t8 t9 s50 t1 t2 t3 t4 t5 t6 t7 t8 t9 s60 t1 t2 t3 t4 t5 t6
t7 t8 t9 s70 t1 t2 t3 t4 t5 t6 t7 t8 t9 s80 t1 t2 t3 t4 t5 t6 t7 t8 t9 s90 t1 t2 t3 t4 t5 t6 t7 t8
t9 r400 t1 t2 t3 t4 t5 t6 t7 t8 t9 s10 t1 t2 t3 t4 t5 t6 t7 t8 t9 s20 t1 t2 t3 t4 t5 t6 t7 t8 t9 s30
t1 t2 t3 t4 t5 t6 t7 t8 t9 s40 t1 t2 t3 t4 t5 t6 t7 t8 t9 s50 t1 t2 t3 t4 t5 t6 t7 t8 t9 s60 t1 t2
t3 t4 t5 t6 t7 t8 t9 s70 t1 t2 t3 t4 t5 t6 t7 t8 t9 s80 t1 t2 t3 t4 t5 t6 t7 t8 t9 s90 t1 t2 t3 t4
t5 t6 t7 t8 t9 r500 t1 t2 t3 t4 t5 t6 t7 t8 t9 s10 t1 t2 t3 t4 t5 t6 t7 t8 t9 s20 t1 t2 t3 t4 t5 t6
t7 t8 t9 s30 t1 t2 t3 t4 t5 t6 t7 t8 t9 s40 t1 t2 t3 t4 t5 t6 t7 t8 t9 s50 t1 t2 t3 t4 t5 t6 t7 t8
t9 s60 t1 t2 t3 t4 t5 t6 t7 t8 t9 s70 t1 t2 t3 t4 t5 t6 t7 t8 t9 s80 t1 t2 t3 t4 t5 t6 t7 t8 t9 s90
t1 t2 t3 t4 t5 t6 t7 t8 t9 r600 t1 t2 t3 t4 t5 t6 t7 t8 t9 s10 t1 t2 t3 t4 t5 t6 t7 t8 t9 s20 t1 t2
t3 t4 t5 t6 t7 t8 t9 s30 t1 t2 t3 t4 t5 t6 t7 t8 t9 s40 t1 t2 t3 t4 t5 t6 t7 t8 t9 s50 t1 t2 t3 t4
t5 t6 t7 t8 t9 s60 t1 t2 t3 t4 t5 t6 t7 t8 t9 s70 t1 t2 t3 t4 t5 t6 t7 t8 t9 s80 t1 t2 t3 t4 t5 t6
t7 t8 t9 s90 t1 t2 t3 t4 t5 t6 t7 t8 t9 r700 t1 t2 t3 t4 t5 t6 t7 t8 t9 s10 t1 t2 t3 t4 t5 t6 t7 t8
t9 s20 t1 t2 t3 t4 t5 t6 t7 t8 t9 s30 t1 t2 t3 t4 t5 t6 t7 t8 t9 s40 t1 t2 t3 t4 t5 t6 t7 t8 t9 s50
t1 t2 t3 t4 t5 t6 t7 t8 t9 s60 t1 t2 t3 t4 t5 t6 t7 t8 hITERATION_MARK cPE_CARTRIDGE fDRIVE cURUS
cXI bEACUP_WITHOUT_HANDLE dPOT dR-OFF_CALENDAR eDROP-BARBED_RIGHTWARDS_ARROW jSPOKED_ASTERISK
cDDY_BEAR cLEPHONE_LOCATION_SIGN kON_TOP_OF_MODEM kRECEIVER s_WITH_PAGE nORDER kSIGN eSCOPE eVISION
dUGU_AI_LENGTH_MARK hDIGIT_EIGHT nFIVE oOUR nNINE nONE nSEVEN oIX nTHREE oWO nZERO
hFRACTION_DIGIT_ONE_FOR_EVEN_POWERS_OF_FOUR zfODD_POWERS_OF_FOUR wTHREE_FOR_EVEN_POWERS_OF_FOUR
zhODD_POWERS_OF_FOUR xWO_FOR_EVEN_POWERS_OF_FOUR zfODD_POWERS_OF_FOUR wZERO_FOR_ODD_POWERS_OF_FOUR
hLENGTH_MARK jTTER_A pA pI pU oBA pHA oCA pHA oDA pDA qHA pHA pZA oE pE oGA pHA oHA oI pI oJA pHA
oKA pHA oLA pLA qLA oMA oNA qKAARA_POLLU pGA pNA pYA oO pO oPA pHA oRA pRA qRA oSA pHA pSA oTA pHA
pSA pTA qHA oU pU oVA pOCALIC_L xL wR xR oYA hSIGN_ANUSVARA nVAGRAHA mCANDRABINDU
nOMBINING_ANUSVARA_ABOVE wCANDRABINDU_ABOVE mNUKTA mSIDDHAM mTUUMU mVIRAMA oSARGA hVOWEL_SIGN_AA tI
tU sE tE sI tI sO tO sU tU sVOCALIC_L zcL zbR zcR cNGE_SIGN dNIS_RACQUET_AND_BALL dT cST_TUBE
cTRAGRAM_FOR_ACCUMULATION pDVANCE pGGRAVATION pSCENT oBARRIER pOLD_RESOLUTION pRANCHING_OUT oCENTRE
pHANGE pLOSED_MOUTH tNESS sURE pOMPLETION tIANCE qNSTANCY rTACT sENTION sRARIETY oDARKENING
pECISIVENESS qFECTIVENESS_OR_DISTORTION qPARTURE pIFFICULTIES qMINISHMENT rMING qVERGENCE pOUBT
pUTIES oEASE pMBELLISHMENT pNCOUNTERS qDEAVOUR qLARGEMENT pTERNITY pXHAUSTION oFAILURE pLIGHT
pOLLOWING qSTERING pULL_CIRCLE sNESS oGATHERING x_IN pOING_TO_MEET pREATNESS pUARDEDNESS oHARDNESS
pOLDING_BACK oINCREASE qNER oJOY oKEEPING_SMALL pINSHIP oLABOURING qW_OR_MODEL pEGION oMASSING
pEASURE pIRED oON_THE_VERGE pPPOSITION oPACKING qTTERN pENETRATION pURITY oREACH qLEASE qSIDENCE
sSTANCE rPONSE pITUAL oSEVERANCE pINKING pTOPPAGE rVE qRENGTH oUNITY oVASTNESS_OR_WASTING oWAITING
qTCH oYOUTHFULNESS bHAANA_AABAAFILI iBAFILI hEBEFILI iEBEEFILI iYBEYFILI hIBIFILI hLETTER_AINU pLIFU
oBAA oCHAVIYANI oDAADHU qVIYANI pHAALU oFAAFU oGAAFU pHAINU pNAVIYANI oHAA pHAA oJAVIYANI oKAAFU
pHAA oLAAMU pHAVIYANI oMEEMU oNAA pOONU oPAVIYANI oQAAFU oRAA oSAADHU pEENU pHAVIYANI qEENU
oTAVIYANI pHAA sLU pO pTAA oVAAVU oWAAVU oYAA oZAA qVIYANI pO hOABOAFILI iBOFILI iOBOOFILI hSUKUN
hUBUFILI dI_CHARACTER_ANGKHANKHU pBO_BAIMAI pCHO_CHAN xG vING vOE pDO_CHADA sDEK pFO_FA uN rNGMAN
pHO_HIP sNOKHUK pKHO_KHAI vON vUAT vWAI tRAKHANG sMUT qO_KAI pLAKKHANGYAO qO_CHULA sLING qU
pMAI_CHATTAWA tEK tHAN-AKAT tTHO uRI sTAIKHU sYAMOK qO_MA pNGO_NGU qIKHAHIT qO_NEN tU pO_ANG
pPAIYANNOI qHINTHU rO_PHAN vUNG tSAMPHAO qO_PLA pRO_RUA qU pSARA_A vA vE vI_MAIMALAI zcUAN vM uE uI
vI uO uU vE wE vU qO_RUSI sSALA tO tUA pTHANTHAKHAT rO_NANGMONTHO tPHUTHAO tTHAHAN wN vONG vUNG
qO_PATAK sTAO pWO_WAEN pYAMAKKAN qO_YAK tING gURRENCY_SYMBOL_BAHT fDIGIT_EIGHT lFIVE mOUR lNINE lONE
lSEVEN mIX lTHREE mWO lZERO cERE_DOES_NOT_EXIST gEXISTS fFORE eMODYNAMIC gMETER cIN_GREEK_CROSS
fSALTIRE gPACE eKING_FACE dRD_PLACE_MEDAL cONG_SANDAL dUGHT_BALLOON cREE_BUTTON_MOUSE
gCONSECUTIVE_EQUALS_SIGNS gDIMENSIONAL_ANGLE hOT_PUNCTUATION gLEFTWARDS_ARROWS hINES_CONVERGING_LEFT
xRIGHT gNETWORKED_COMPUTERS gPOINTED_BLACK_STAR gRAYS_ABOVE lBELOW lLEFT lRIGHT hIGHTWARDS_ARROWS
gSPEECH_BUBBLES f-D_BOTTOM-LIGHTED_RIGHTWARDS_ARROWHEAD
iLEFT-LIGHTED_DOWNWARDS_EQUILATERAL_ARROWHEAD iRIGHT-LIGHTED_UPWARDS_EQUILATERAL_ARROWHEAD
iTOP-LIGHTED_LEFTWARDS_EQUILATERAL_ARROWHEAD uRIGHTWARDS_ARROWHEAD zgEQUILATERAL_ARROWHEAD gEM_DASH
gPER-EM_SPACE cUMBS_DOWN_SIGN hUP_SIGN dNDER_CLOUD_AND_RAIN hSTORM
bIBETAN_ASTROLOGICAL_SIGN_-KHYUD_PA zbSDONG_TSHUGS zcGRA_GCAN_-CHAR_RTAGS
iCANTILLATION_SIGN_CANG_TE-U zbHEAVY_BEAT zbLIGHT_BEAT zbSBUB_-CHAL iDIGIT_EIGHT oFIVE pOUR
oHALF_EIGHT tFIVE uOUR tNINE tONE tSEVEN uIX tTHREE uWO tZERO oNINE oONE oSEVEN pIX oTHREE pWO oZERO
iKU_RU_KHA r_BZHI_MIG_CAN iLETTER_-A pA pBA qHA pCA qHA pDA qDA rHA qHA qZA rHA pFIXED-FORM_RA pGA
qHA pHA pJA pKA qHA qKA qSSA pLA pMA pNA qGA qNA qYA pPA qHA pRA qRA pSA qHA qSA pTA qHA qSA rHA qTA
rHA pWA pYA pZA qHA jOGOTYPE_SIGN_CHAD_RTAGS wLHAG_RTAGS iMARK_ANG_KHANG_GYAS zON
nBKA-_SHOG_GI_MGO_RGYAN xYIG_MGO oSDUS_RTAGS pKA-_SHOG_GI_MGO_RGYAN qUR_YIG_MGO
nCARET_-DZUD_RTAGS_BZHI_MIG_CAN zgME_LONG_CAN tYIG_MGO_PHUR_SHAD_MA oHE_MGO
oLOSING_BRDA_RNYING_YIG_MGO_SGAB_MA vYIG_MGO_SGAB_MA nDELIMITER_TSHEG_BSTAR nGTER_TSHEG
sYIG_MGO_-UM_GTER_TSHEG_MA zfRNAM_BCAD_MA zbTRUNCATED_A oUG_RTAGS_GYAS zON nHALANTA
nINITIAL_BRDA_RNYING_YIG_MGO_MDUN_MA vYIG_MGO_MDUN_MA pTERSYLLABIC_TSHEG nLEADING_MCHAN_RTAGS
nMNYAM_YIG_GI_MGO_RGYAN nNGAS_BZUNG_NYI_ZLA ySGOR_RTAGS oYIS_SHAD sTSHEG x_SHAD nPALUTA
nRGYA_GRAM_SHAD oIN_CHEN_SPUNGS_SHAD nSBRUL_SHAD oHAD nTRAILING_MCHAN_RTAGS oSA_-PHRU pHEG_SHAD
nYIG_MGO_TSHEG_SHAD_MA iSIGN_GRU_CAN_RGYINGS rMED_RGYINGS nINVERTED_MCHU_CAN nLCE_TSA_CAN pI_RTAGS
nMAR_TSHES oCHU_CAN nNYI_ZLA_NAA_DA nRDEL_DKAR_GCIG yNYIS ySUM xRDEL_NAG sNAG_GCIG xNYIS xSUM
wRDEL_DKAR oJES_SU_NGA_RO oNAM_BCAD nSNA_LDAN nYANG_RTAGS pR_TSHES jUBJOINED_LETTER_-A zA zBA zbHA
zCA zbHA zDA zbDA zcHA zbHA zbZA zcHA zFIXED-FORM_RA zlWA zlYA zGA zbHA zHA zJA zKA zbHA zbSSA zLA
zMA zNA zbGA zbNA zbYA zPA zbHA zRA zSA zbHA zbSA zTA zbHA zbSA zcHA zbTA zcHA zWA zYA zZA zbHA
sSIGN_INVERTED_MCHU_CAN xLCE_TSA_CAN xMCHU_CAN jYLLABLE_OM kMBOL_DRIL_BU pNOR_BU v_BZHI_-KHYIL
wGSUM_-KHYIL wNYIS_-KHYIL pPADMA_GDAN qHUR_PA pRDO_RJE w_RGYA_GRAM iVOWEL_SIGN_AA tE uE tI uI tO uO
tREVERSED_I zeI tU uU tVOCALIC_L zdL zcR zdR cCKET cE_OVER_INFINITY cFINAGH_CONSONANT_JOINER
jLETTER_AHAGGAR_YAZH rYER_YAGH qBERBER_ACADEMY_YAH ziJ qTAWELLEMET_YAZ rUAREG_YAGH zbN zH zK zbH zNG
zQ zZH qYA sA sB tH sCH sD tD uH tH sF sG tH uH sH tH sJ sK tH uH sL sM sN sP sQ sR tR sS tH tS sT
tH tT sV sW sY sZ tH tZ rE sY rI rO rU jMODIFIER_LETTER_LABIALIZATION_MARK jSEPARATOR_MARK cGER
f_FACE dHT_TRIFOLIATE_SNOWFLAKE cLDE f_OPERATOR o_ABOVE_LEFTWARDS_ARROW vRIGHTWARDS_ARROW
pWITH_DOT_ABOVE uRISING_DOTS gWITH_DOT_ABOVE pBELOW lRING_ABOVE cMER_CLOCK eS_WITH_LEFT_HALF_BLACK
lRIGHT_HALF_BLACK cNY e_TWO_DOTS_OVER_ONE_DOT_PUNCTUATION cRED_FACE dHUTA_ABBREVIATION_SIGN jNJI
iDIGIT_EIGHT oFIVE pOUR oNINE oONE oSEVEN pIX oTHREE pWO oZERO iGVANG iLETTER_A qA qI qU pBA qHA pCA
qHA pDA qDA rHA qHA pE pGA qHA pHA pI qI pJA qHA pKA qHA pLA pMA pNA qGA qNA qYA pO pPA qHA pRA pSA
qHA qSA pTA qHA qTA rHA pU qU pVA qOCALIC_L yL xR yR pYA iOM iSIGN_ANUSVARA oVAGRAHA nCANDRABINDU
nNUKTA nVIRAMA pSARGA iVOWEL_SIGN_AA uI uU tE tI uI tO tSHORT_E zO tU uU tVOCALIC_L zdL zcR zdR
dONIAN_SIGN_CAPITAL_ET oET bOILET cKYO_TOWER cMATO cNGUE cOLBOX dTH fBRUSH
cP_ARC_ANTICLOCKWISE_ARROW zc_WITH_PLUS iCLOCKWISE_ARROW_WITH_MINUS eCURLY_BRACKET
eHALF_BLACK_CIRCLE jINTEGRAL jLEFT_PARENTHESIS jRIGHT_PARENTHESIS jSECTION_SIGN gT eLEFT_CORNER kROP
jHALF_BRACKET ePARENTHESIS eRIGHT_CORNER lROP kHALF_BRACKET eSQUARE_BRACKET eTORTOISE_SHELL_BRACKET
eWITH_UPWARDS_ARROW_ABOVE cRTOISE_SHELL_BRACKETED_CJK_UNIFIED_IDEOGRAPH-4E09 zy8C zw52DD zxB89
zw6253 zx557 zx72C zw70B9 zx6D7 zLATIN_CAPITAL_LETTER_S cTAL_RUNOUT dO_LETTER_A nE mBA nREATHY_AE uE
vO uI vU mCHA mDA mE nO mGA mHA mI nU mJA mKA mLA mMA mNA nGA mO mPA mRA mSA mTA mU mWA mYA
fSIGN_RISING_TONE bRACKBALL eTOR dDE_MARK_SIGN dIN dM e_CAR dNSPLUTO fVERSAL_INTERSECTION
cIANGLE_WITH_DOT_ABOVE oROUNDED_CORNERS oSERIFS_AT_BOTTOM oUNDERBAR i-HEADED_RIGHTWARDS_ARROW
gULAR_BULLET lFLAG_ON_POST lRULER dCOLON dDENT_EMBLEM dGRAM_FOR_EARTH mFIRE mHEAVEN mLAKE mMOUNTAIN
mTHUNDER mWATER nIND dPLE_COLON_OPERATOR hDAGGER hHORIZONTAL_BAR_WITH_DOUBLE_VERTICAL_STROKE
zcTRIPLE_VERTICAL_STROKE hINTEGRAL hNESTED_GREATER-THAN oLESS-THAN hPLUS iRIME
hSOLIDUS_BINARY_RELATION hTILDE hVERTICAL_BAR_BINARY_RELATION uDELIMITER uRIGHT_TURNSTILE
uWITH_HORIZONTAL_STROKE cOLL fEYBUS dPHY eICAL_DRINK jFISH cUE e_LIGHT_MOON_ARTA dMPET bUGRIK_SIGN
cLIP cMBLER_GLASS cRKEY eISH_LIRA_SIGN dNED_AMPERSAND iNGLE hBLACK_PENTAGON nSHOGI_PIECE hCAPITAL_F
iOMMA hDAGGER iIGIT_THREE oWO hGREEK_SMALL_LETTER_IOTA hNORTH_EAST_POINTING_LEAF nWEST_POINTING_LEAF
jT_SIGN hOK_HAND_SIGN hSANS-SERIF_CAPITAL_G zbL zbY iEMICOLON iMALL_F iOUTH_EAST_POINTING_LEAF
nWEST_POINTING_LEAF hWHITE_SHOGI_PIECE dTLE bWELVE_POINTED_BLACK_STAR cISTED_RIGHTWARDS_ARROWS
cO_ASTERISKS_ALIGNED_VERTICALLY eBUTTON_MOUSE eCONSECUTIVE_EQUALS_SIGNS eDOT_LEADER iPUNCTUATION
hS_OVER_ONE_DOT_PUNCTUATION eHEARTS eINTERSECTING_LOGICAL_AND zOR eJOINED_SQUARES
eLOGICAL_AND_OPERATOR mOR_OPERATOR eMEN_HOLDING_HANDS eSPEECH_BUBBLES eWOMEN_HOLDING_HANDS d-EM_DASH"

def namesWithU : String := "
aUGARITIC_LETTER_AIN rLPA qBETA qDELTA rHAL qGAMLA rHAIN qHO sTA qI qKAF rHA qLAMDA qMEM qNUN qPU
qQOPA qRASHA qSADE sMKA rHIN rSU qTET rHANNA rO qU qWO qYOD qZETA rU jWORD_DIVIDER bMBRELLA
i_ON_GROUND jWITH_RAIN_DROPS bNAMUSED_FACE cCERTAINTY_SIGN cDERTIE dO_SYMBOL cICORN_FACE dON
f_ABOVE_BAR_ABOVE_INTERSECTION mINTERSECTION gBESIDE_AND_JOINED_WITH_UNION gWITH_LOGICAL_OR
lMINUS_SIGN lOVERBAR dT_SEPARATOR eED_SYMBOL dVERSAL_RECYCLING_SYMBOL cMARRIED_PARTNERSHIP_SYMBOL
bP_ARROW_THROUGH_CIRCLE iHEAD m_BETWEEN_TWO_HORIZONTAL_BARS nIN_A_RECTANGLE_BOX
dBARB_LEFT_DOWN_BARB_LEFT_HARPOON xRIGHT_HARPOON iRIGHT_DOWN_BARB_LEFT_HARPOON yRIGHT_HARPOON
dDOWN_ARROW n_WITH_BASE iBLACK_ARROW iDOUBLE_ARROW iSANS-SERIF_ARROW iTRIANGLE-HEADED_ARROW
iWHITE_ARROW dFISH_TAIL dRIGHT_DIAGONAL_ELLIPSIS dTACK h_WITH_CIRCLE_ABOVE c-POINTING_AIRPLANE
mMILITARY_AIRPLANE mRED_TRIANGLE mSMALL_AIRPLANE sRED_TRIANGLE mTRIANGLE_WITH_LEFT_HALF_BLACK
zbRIGHT_HALF_BLACK cPER_AND_LEFT_AND_LOWER_TRIANGULAR_THREE_QUARTERS_BLOCK lOWER_ONE_EIGHTH_BLOCK
qTRIANGULAR_HALF_BLOCK kRIGHT_AND_LOWER_TRIANGULAR_THREE_QUARTERS_BLOCK gBLADE_SCISSORS
gFIVE_EIGHTHS_BLOCK gHALF_BLOCK q_AND_LOWER_HALF_INVERSE_MEDIUM_SHADE lCIRCLE
lINVERSE_MEDIUM_SHADE_AND_LOWER_HALF_BLOCK tWHITE_CIRCLE lMEDIUM_SHADE
gLEFT_BLOCK_DIAGONAL_LOWER_CENTRE_TO_LOWER_MIDDLE_RIGHT zrUPPER_MIDDLE_RIGHT zxRIGHT
zhLEFT_TO_LOWER_MIDDLE_RIGHT zpUPPER_CENTRE zvMIDDLE_RIGHT zhMIDDLE_LEFT_TO_UPPER_CENTRE
zzdMIDDLE_RIGHT zzdRIGHT zbUPPER_MIDDLE_LEFT_TO_UPPER_CENTRE zzdRIGHT lCORNER_WITH_DOT
lOR_LOWER_RIGHT_CURLY_BRACKET_SECTION lQUADRANT_CIRCULAR_ARC lTO_LOWER_RIGHT_FILL mRIANGLE
rULAR_MEDIUM_SHADE gONE_EIGHTH_BLOCK kQUARTER_BLOCK
gRIGHT_BLOCK_DIAGONAL_LOWER_MIDDLE_LEFT_TO_LOWER_CENTRE zzeRIGHT
zcUPPER_CENTRE_TO_LOWER_MIDDLE_RIGHT zyRIGHT zsUPPER_MIDDLE_RIGHT ziLEFT_TO_LOWER_CENTRE
zwMIDDLE_RIGHT zqUPPER_MIDDLE_RIGHT ziMIDDLE_LEFT_TO_LOWER_CENTRE zzeMIDDLE_RIGHT zzeRIGHT
mDROP-SHADOWED_WHITE_SQUARE mOR_LOWER_LEFT_CURLY_BRACKET_SECTION mPENCIL mQUADRANT_CIRCULAR_ARC
mSHADOWED_WHITE_CIRCLE zcSQUARE mTO_LOWER_LEFT_FILL nRIANGLE sULAR_MEDIUM_SHADE gSEVEN_EIGHTHS_BLOCK
gTHREE_EIGHTHS_BLOCK mQUARTERS_BLOCK hRIANGULAR_ONE_QUARTER_BLOCK cSIDE-DOWN_FACE cWARDS_ANCORA
jRROW n_AND_RIGHT_ONE_EIGHTH_BLOCK oFROM_BAR oLEFTWARDS_OF_DOWNWARDS_ARROW oTO_BAR
oWITH_DOUBLE_STROKE tEQUILATERAL_ARROWHEAD tHORIZONTAL_STROKE tLARGE_TRIANGLE_ARROWHEAD
tMEDIUM_TRIANGLE_ARROWHEAD tNOTCHED_TAIL tSMALL_EQUILATERAL_ARROWHEAD zTRIANGLE_ARROWHEAD
tTIP_LEFTWARDS xRIGHTWARDS iBLACK_ARROW oCIRCLED_WHITE_ARROW iCOMPRESSED_ARROW iDASHED_ARROW
jOUBLE_ARROW iFINGER-POST_ARROW iHARPOON_WITH_BARB_LEFT_BESIDE_DOWNWARDS_HARPOON_WITH_BARB_RIGHT
znUPWARDS_HARPOON_WITH_BARB_RIGHT zgFROM_BAR zgTO_BAR zfWARDS zbRIGHT_FROM_BAR zhTO_BAR zgWARDS
jEAVY_ARROW oCOMPRESSED_ARROW iPAIRED_ARROWS iQUADRUPLE_ARROW iROCKET iSANS-SERIF_ARROW
jQUARED_ARROW iTRIANGLE_ARROWHEAD q-HEADED_ARROW ze_LEFTWARDS_OF_DOWNWARDS_TRIANGLE-HEADED_ARROW
zfTO_BAR zfWITH_BOLD_SHAFT zkDOUBLE_HORIZONTAL_STROKE zkHEAVY_SHAFT zkLONG_TIP_LEFTWARDS
ztRIGHTWARDS zkMEDIUM_SHAFT zkNARROW_SHAFT zkVERY_HEAVY_SHAFT yDASHED_ARROW yPAIRED_ARROWS
lPLE_ARROW jWO_HEADED_ARROW l-HEADED_ARROW_FROM_SMALL_CIRCLE zWITH_TRIANGLE_ARROWHEADS iWHITE_ARROW
t_FROM_BAR zd_WITH_HORIZONTAL_BAR uON_PEDESTAL zg_WITH_HORIZONTAL_BAR zmVERTICAL_BAR
uWITHIN_TRIANGLE_ARROWHEAD oDOUBLE_ARROW zb_ON_PEDESTAL bRANUS bS"

def namesWithV : String := "
aVAI_COMMA eDIGIT_EIGHT kFIVE lOUR kNINE kONE kSEVEN lIX kTHREE lWO kZERO eFULL_STOP eQUESTION_MARK
eSYLLABLE_A oN nBA oE pE oHA pE qE pI pO qO pU oI oO pO oU nCA oE pE oI oO pO oU nDA oE pE oHA pE qE
pHA qE rE qI qO rO qU pI pO qO pU oI oO pO oU nE oE pN oN nFA oE pE oI oO pO oU nGA oBA pE qE qN pI
pO qN qO pU oE pE pN oI oO pO oU nHA pN oE pE pN oI pN oO pN pO oU pN nI oN nJA oE pE oI oO pO oU
nKA pN oE pE oI oO pO oPA qN pE qE qN pI pO qO pU oU nLA oE pE pNGTHENER oI oO pO oU nMA oBA pE qE
pI pO qO pU oE pE oGBA qE rE qI qO rO qU oI oO pO oU nNA oDA pE qE pI pO qLE_DO tFA tKA tMA tSOO qO
pU oE pE oG pAN pEN pGA qE rE rN qI qO rO qU pON oI oJA pE qE pI pO qO pU oO pO oU oYA pE qE pI pO
qO pU nO oN oO pN nPA oE pE oI oO pO oU nRA oE pE oI oO pO oU nSA oE pE oHA pE qE pI pO qO pU oI oO
pO oU nTA oE pE oHA pE qE pI pO qO pU oI oO pO oU nU oN nVA oE pE oI oO pO oU nWA pN oE pE qN pN oI
pN oO pN pO qN oU pN nYA oE pE oI oO pO oU nZA oE pE oHA pE qE pI pO qO pU oI oO pO oU gMBOL_BANG
lDANG mO-O nONG lFAA mEENG lJONG lKEENG mUNG lNII lTAA mING mONG cMPIRE cRIATION_SELECTOR-1 u0 v0 v1
v2 v3 v4 v5 v6 v7 v8 v9 u1 v0 v1 v2 v3 v4 v5 v6 v7 v8 v9 u2 v0 v1 v2 v3 v4 v5 v6 v7 v8 v9 u3 v0 v1
v2 v3 v4 v5 v6 v7 v8 v9 u4 v0 v1 v2 v3 v4 v5 v6 v7 v8 v9 u5 v0 v1 v2 v3 v4 v5 v6 v7 v8 v9 u6 v0 v1
v2 v3 v4 v5 v6 v7 v8 v9 u7 v0 v1 v2 v3 v4 v5 v6 v7 v8 v9 u8 v0 v1 v2 v3 v4 v5 v6 v7 v8 v9 u9 v0 v1
v2 v3 v4 v5 v6 v7 v8 v9 t2 u0 v0 v1 v2 v3 v4 v5 v6 v7 v8 v9 u1 v0 v1 v2 v3 v4 v5 v6 v7 v8 v9 u2 v0
v1 v2 v3 v4 v5 v6 v7 v8 v9 u3 v0 v1 v2 v3 v4 v5 v6 v7 v8 v9 u4 v0 v1 v2 v3 v4 v5 v6 v7 v8 v9 u5 v0
v1 v2 v3 v4 v5 v6 u6 u7 u8 u9 t3 u0 u1 u2 u3 u4 u5 u6 u7 u8 u9 t4 u0 u1 u2 u3 u4 u5 u6 u7 u8 u9 t5
u0 u1 u2 u3 u4 u5 u6 u7 u8 u9 t6 u0 u1 u2 u3 u4 u5 u6 u7 u8 u9 t7 u0 u1 u2 u3 u4 u5 u6 u7 u8 u9 t8
u0 u1 u2 u3 u4 u5 u6 u7 u8 u9 t9 u0 u1 u2 u3 u4 u5 u6 u7 u8 u9 bECTOR_OR_CROSS_PRODUCT
cDIC_SIGN_ANUSVARA_ANTARGOMUKHA uBAHIRGOMUKHA uUBHAYATO_MUKHA uVAMAGOMUKHA zg_WITH_TAIL mRDHAVISARGA
mTIKRAMA lDOUBLE_ANUSVARA_ANTARGOMUKHA lHEXIFORM_LONG_ANUSVARA lJIHVAMULIYA lLONG_ANUSVARA
lNIHSHVASA lREVERSED_VISARGA_ANUDATTA zdUDATTA mOTATED_ARDHAVISARGA mTHANG_LONG_ANUSVARA lTIRYAK
lUPADHMANIYA lVISARGA_ANUDATTA zc_WITH_TAIL tSVARITA tUDATTA z_WITH_TAIL lYAJURVEDIC_MIDLINE_SVARITA
gTONE_ATHARVAVEDIC_INDEPENDENT_SVARITA lCANDRA_ABOVE sBELOW lDOT_BELOW nUBLE_RING_ABOVE sSVARITA
lKARSHANA nTHAKA_ANUDATTA lPRENKHA lRIGVEDIC_KASHMIRI_INDEPENDENT_SVARITA nNG_ABOVE lSHARA
lTHREE_DOTS_BELOW mRIPLE_SVARITA mWO_DOTS_BELOW lYAJURVEDIC_AGGRAVATED_INDEPENDENT_SVARITA
wINDEPENDENT_SVARITA wKATHAKA_INDEPENDENT_SVARITA zy_SCHROEDER cRSICLE
dTICAL_BAR_BESIDE_RIGHT_TRIANGLE nDOUBLE_LEFT_TURNSTILE nTRIPLE_RIGHT_TURNSTILE
nWITH_HORIZONTAL_STROKE jELLIPSIS jFOUR_DOTS jIDEOGRAPHIC_ITERATION_MARK jKANA_REPEAT_MARK
z_LOWER_HALF zbUPPER_HALF vWITH_VOICED_SOUND_MARK zs_UPPER_HALF jLINE n_EXTENSION oWITH_CIRCLE_ABOVE
zbBELOW tMIDDLE_DOT jMALE_WITH_STROKE_SIGN jONE_EIGHTH_BLOCK-2 zb3 zb4 zb5 zb6 zb7 jSIX_DOTS
jTAB_KEY mULATION t_SET kILDE kRAFFIC_LIGHT jZIGZAG_LINE dY_BOLD_GREEK_CROSS
fHEAVY_EIGHT_POINTED_BLACK_STAR rSPOKED_ASTERISK lFIVE_SPOKED_ASTERISK lGREEK_CROSS lREVERSE_SOLIDUS
lSALTIRE mIX_SPOKED_ASTERISK mOLIDUS lWHITE_CIRCLE rSQUARE fMUCH_GREATER-THAN kLESS-THAN cSTA
bIBRATION_MODE cCTORY_HAND cDEO_CAMERA gGAME fCASSETTE cETNAMESE_ALTERNATE_READING_MARK_CA zjNHAY
dWDATA_SQUARE cOLIN cRGO cTHKUQI_CAPITAL_LETTER_A yBBE zE yCE zHE yDE zHE yE zI yFE yGA yHA zHA yI
zJE yJE yKA yLA zLA yME yNE zJE yO yPE yQA yRE ySE zHE yTE zHE yU yVE yXE yY yZE jSMALL_LETTER_A
wBBE xE wCE xHE wDE xHE wE xI wFE wGA wHA xHA wI xJE wJE wKA wLA xLA wME wNE xJE wO wPE wQA wRE wSE
xHE wTE xHE wU wVE wXE wY wZE bOIDED_GREEK_CROSS cLCANO dLEYBALL dUME_INTEGRAL bS1 d0 e0 e1 e2 e3 e4
e5 e6 e7 e8 e9 d1 e0 e1 e2 e3 e4 e5 e6 e7 e8 e9 d2 e0 e1 e2 e3 e4 e5 e6 e7 e8 e9 d3 e0 e1 e2 e3 e4
e5 e6 e7 e8 e9 d4 e0 e1 e2 e3 e4 e5 e6 e7 e8 e9 d5 e0 e1 e2 e3 e4 e5 e6 e7 e8 e9 d6 e0 e1 e2 e3 e4
e5 e6 e7 e8 e9 d7 e0 e1 e2 e3 e4 e5 e6 e7 e8 e9 d8 e0 e1 e2 e3 e4 e5 e6 e7 e8 e9 d9 e0 e1 e2 e3 e4
e5 e6 e7 e8 e9 c2 d0 e0 e1 e2 e3 e4 e5 e6 e7 e8 e9 d1 e0 e1 e2 e3 e4 e5 e6 e7 e8 e9 d2 e0 e1 e2 e3
e4 e5 e6 e7 e8 e9 d3 e0 e1 e2 e3 e4 e5 e6 e7 e8 e9 d4 e0 e1 e2 e3 e4 e5 e6 e7 e8 e9 d5 e0 e1 e2 e3
e4 e5 e6 d6 d7 d8 d9 c3 d0 d1 d2 d3 d4 d5 d6 d7 d8 d9 c4 d0 d1 d2 d3 d4 d5 d6 d7 d8 d9 c5 d0 d1 d2
d3 d4 d5 d6 d7 d8 d9 c6 d0 d1 d2 d3 d4 d5 d6 d7 d8 d9 c7 d0 d1 d2 d3 d4 d5 d6 d7 d8 d9 c8 d0 d1 d2
d3 d4 d5 d6 d7 d8 d9 c9 d0 d1 d2 d3 d4 d5 d6 d7 d8 d9 bT cS bULCANUS dGAR_FRACTION_FIVE_EIGHTHS
vSIXTHS rOUR_FIFTHS qONE_EIGHTH uFIFTH uHALF uNINTH uQUARTER uSEVENTH vIXTH uTENTH vHIRD
qSEVEN_EIGHTHS qTHREE_EIGHTHS wFIFTHS wQUARTERS rWO_FIFTHS uTHIRDS qZERO_THIRDS"

def namesWithW : String := "
aWAFFLE cNCHO_DIGIT_EIGHT nFIVE oOUR nNINE nONE nSEVEN oIX nTHREE oWO nZERO hLETTER_A pA qN rG pNG
pU oBA oCA oDA oE pN oFA oGA oHA oI pNG oJA oKA pHA oLA pLHA oMA oNA pGA pYA oO pN qG oPA pHA oRA
oSA pHA oTA pHA pRA pSA oU pEN oVA oWA oYA pIH oZA hNGUN_SIGN hTONE_KOI pNI mTUP pNI
dING_CRESCENT_MOON_SYMBOL hGIBBOUS_MOON_SYMBOL cRANG_CITI_CAPITAL_LETTER_A zdM zdNG zdT zcBU zcDA
zcE zdNN zeY zcGA zcHAR zdIYO zdOLO zeRR zcII zcKO zcNGAA zdUNG zcO zdDD zcPU zcSII zdSUU zcTTE zcUC
zdU zcVIYO zcWI zcYA zdO zdU zeJ mDIGIT_EIGHT sFIVE tOUR sNINE sONE sSEVEN tIX sTHREE tWO sZERO
mNUMBER_EIGHTY tFIFTY uORTY tNINETY tSEVENTY uIXTY tTEN uHIRTY uWENTY mOM mSMALL_LETTER_A zbM zbNG
zbT zBU zDA zE zbNN zcY zGA zHAR zbIYO zbOLO zcRR zII zKO zNGAA zbUNG zO zbDD zPU zSII zbSUU zTTE
zUC zbU zVIYO zWI zYA zbO zbU zcJ dNING_SIGN cSTEBASKET cTCH dER_BUFFALO gCLOSET gPOLO gWAVE fMELON
cVE_ARROW_POINTING_DIRECTLY_LEFT zeRIGHT fDASH dING_BLACK_FLAG hHAND_SIGN hWHITE_FLAG dY_DASH fLINE
gOW_LINE fOVERLINE cXING_CRESCENT_MOON_SYMBOL hGIBBOUS_MOON_SYMBOL bEARY_CAT_FACE gFACE cDDING
dGE-TAILED_RIGHTWARDS_ARROW cIERSTRASS_ELLIPTIC_FUNCTION dGHT_LIFTER cST_SYRIAC_CROSS bHALE cEEL
f_OF_DHARMA fCHAIR_SYMBOL cITE_ARROW_SHAFT_WIDTH_ONE yTWO_THIRDS gBULLET gCHESS_BISHOP
s_ROTATED_NINETY_DEGREES zcTWO_HUNDRED_SEVENTY_DEGREES mEQUIHOPPER w_ROTATED_NINETY_DEGREES mKING
q_ROTATED_NINETY_DEGREES zTWO_HUNDRED_SEVENTY_DEGREES nNIGHT s_ROTATED_FORTY-FIVE_DEGREES
zcNINETY_DEGREES zcONE_HUNDRED_THIRTY-FIVE_DEGREES zcTHREE_HUNDRED_FIFTEEN_DEGREES
zdWO_HUNDRED_SEVENTY_DEGREES zoTWENTY-FIVE_DEGREES s-BISHOP tQUEEN tROOK mPAWN
q_ROTATED_NINETY_DEGREES zTWO_HUNDRED_SEVENTY_DEGREES mQUEEN r_ROTATED_NINETY_DEGREES
zbTWO_HUNDRED_SEVENTY_DEGREES mROOK q_ROTATED_NINETY_DEGREES zTWO_HUNDRED_SEVENTY_DEGREES
mTURNED_BISHOP tKING uNIGHT tPAWN tQUEEN tROOK hIRCLE m_CONTAINING_BLACK_SMALL_CIRCLE
nWITH_DOT_RIGHT uWN_ARROW sLOWER_LEFT_QUADRANT yRIGHT_QUADRANT sTWO_DOTS sUPPER_LEFT_QUADRANT
yRIGHT_QUADRANT hLUB_SUIT hONCAVE-SIDED_DIAMOND zc_WITH_LEFTWARDS_TICK ziRIGHTWARDS_TICK gDIAMOND
n_CONTAINING_BLACK_MEDIUM_DIAMOND zgSMALL_DIAMOND zgVERY_SMALL_DIAMOND oIN_SQUARE oSUIT
oWITH_CENTRED_DOT hOWN_POINTING_BACKHAND_INDEX uINDEX uLEFT_HAND_INDEX k-POINTING_SMALL_TRIANGLE
uTRIANGLE hRAUGHTS_KING pMAN gEXCLAMATION_MARK_ORNAMENT gFLAG k_WITH_HORIZONTAL_MIDDLE_BLACK_STRIPE
iORETTE jWER hOUR_POINTED_CUSP tSTAR hROWNING_FACE gHARD_SHELL_FLOPPY_DISK hEART l_SUIT
jVY_CHECK_MARK mSALTIRE_WITH_ROUNDED_CORNERS iXAGON hORIZONTAL_ELLIPSE iURGLASS gLARGE_SQUARE
iTIN_CROSS hEFT_LANE_MERGE lPOINTING_BACKHAND_INDEX uINDEX k-POINTING_POINTER uSMALL_TRIANGLE
uTRIANGLE hOZENGE_CONTAINING_BLACK_SMALL_LOZENGE gMEDIUM_DIAMOND nLOZENGE nSMALL_SQUARE oQUARE oTAR
hOON_SELENA gNIB gPARALLELOGRAM hENNANT jTAGON gQUESTION_MARK_ORNAMENT gRECTANGLE
hIGHT_POINTING_BACKHAND_INDEX vINDEX l-POINTING_PENTAGON wOINTER vSMALL_TRIANGLE vTRIANGLE gSCISSORS
hESAME_DOT hHOGI_PIECE hMALL_LOZENGE mSQUARE nTAR iILING_FACE hPADE_SUIT hQUARE m_BUTTON
nCONTAINING_BLACK_MEDIUM_SQUARE zfSMALL_SQUARE zfVERY_SMALL_SQUARE nWITH_CENTRE_VERTICAL_LINE
sLEFTWARDS_TICK tOWER_LEFT_QUADRANT yRIGHT_QUADRANT sRIGHTWARDS_TICK tOUNDED_CORNERS
sUPPER_LEFT_QUADRANT yRIGHT_QUADRANT sVERTICAL_BISECTING_LINE hTAR hUN j_BEHIND_CLOUD w_WITH_RAIN
kWITH_RAYS pSMALL_CLOUD gTELEPHONE hOUCHTONE_TELEPHONE hRAPEZIUM
iIANGLE_CONTAINING_SMALL_WHITE_TRIANGLE hWO-WAY_LEFT_WAY_TRAFFIC gUP_POINTING_BACKHAND_INDEX sINDEX
i-POINTING_CHEVRON sSMALL_TRIANGLE sTRIANGLE zb_WITH_DOT gVERTICAL_BAR pELLIPSE pRECTANGLE
jY_SMALL_SQUARE f-FEATHERED_RIGHTWARDS_ARROW bIDE-HEADED_DOWNWARDS_BARB_ARROW wHEAVY_BARB_ARROW
wLIGHT_BARB_ARROW wMEDIUM_BARB_ARROW wVERY_HEAVY_BARB_ARROW mLEFTWARDS_BARB_ARROW wHEAVY_BARB_ARROW
wLIGHT_BARB_ARROW wMEDIUM_BARB_ARROW wVERY_HEAVY_BARB_ARROW mNORTH_EAST_BARB_ARROW xHEAVY_BARB_ARROW
xLIGHT_BARB_ARROW xMEDIUM_BARB_ARROW xVERY_HEAVY_BARB_ARROW sWEST_BARB_ARROW xHEAVY_BARB_ARROW
xLIGHT_BARB_ARROW xMEDIUM_BARB_ARROW xVERY_HEAVY_BARB_ARROW mRIGHTWARDS_BARB_ARROW xHEAVY_BARB_ARROW
xLIGHT_BARB_ARROW xMEDIUM_BARB_ARROW xVERY_HEAVY_BARB_ARROW mSOUTH_EAST_BARB_ARROW xHEAVY_BARB_ARROW
xLIGHT_BARB_ARROW xMEDIUM_BARB_ARROW xVERY_HEAVY_BARB_ARROW sWEST_BARB_ARROW xHEAVY_BARB_ARROW
xLIGHT_BARB_ARROW xMEDIUM_BARB_ARROW xVERY_HEAVY_BARB_ARROW mUPWARDS_BARB_ARROW uHEAVY_BARB_ARROW
uLIGHT_BARB_ARROW uMEDIUM_BARB_ARROW uVERY_HEAVY_BARB_ARROW cGGLY_VERTICAL_LINE cLTED_FLOWER
cND_BLOWING_FACE fCHIME eOW dE_GLASS dKING_FACE cRED_KEYBOARD bJ bOLF_FACE cMAN f_WITH_BUNNY_EARS
fS_BOOTS hCLOTHES hHAT hSANDAL dENS_SYMBOL cN_SIGN cOD cRD_JOINER fSEPARATOR_MIDDLE_DOT dLD_MAP dM
dRIED_FACE bRAPPED_PRESENT cEATH_PRODUCT dNCH dSTLERS cITING_HAND"

def namesWithX : String := "
aX_IN_A_RECTANGLE_BOX b-RAY bIANGQI_BLACK_CANNON pHARIOT oELEPHANT oGENERAL oHORSE oMANDARIN
oSOLDIER iRED_CANNON nHARIOT mELEPHANT mGENERAL mHORSE mMANDARIN mSOLDIER bOR"

def namesWithY : String := "
aYAWNING_FACE bELLOW_HEART cN_SIGN cZIDI_COMBINING_HAMZA_MARK rMADDA_MARK hHYPHENATION_MARK
hLETTER_BE oCHHIM qIM pIM oDAD qL oELIF pT pW pYN oFA oGAF oHAY pHA oJA oKAF pHAF oLAM
r_WITH_DOT_ABOVE oMIM oNUN oOW oPE pHE oQAF oRA pHA oSAD pE pHIN pIN oTA pHE oUM oVA
q_ALTERNATE_FORM oWAW oXA pHEYN oYOT r_WITH_CIRCUMFLEX_ABOVE oZA qL pE bI_RADICAL_BBUT mUR lCHE mIP
mUOP mY nP nT lDDUR mU lGA mEP mGOP nUO mOT lHMO mXIT nOP nUO lJJIE nUT nY mO lKE mIT lLI nE mYR lMI
mOP lNBIE mYIP nOP mZUP lOP lPUT mYT lQOT lSHAT nOP nUR nY mSI lTAT mU lVEP mUR lWO lYIT mO lZA mOT
mUP nR mZIET dSYLLABLE_A nP nT nX mBA oP oT oX nBA pP pT pX oE pP pX oI pE qP qT qX pP pT pX oO pP
pT pX oU pO qP qX pP pR qX pT pX oY pP pT pX nE oP oX nI oE pP pT pX oP oT oX nO oP oT oX nU oO pP
pX oP oR pX oT oX nY oP oR pX oT oX mCA oP oT oX nE oP oX nHA pP pT pX oE pP pT pX oO pP pT pX oU pO
qP qT qX pP pR qX pX oY pP pR qX pT pX nI oE pP pT pX oP oT oX nO oP oT oX nU oO pP pX oP oR pX oT
oX nY oP oR pX oT oX mDA oP oT oX nDA pP pT pX oE pP pX oI pE qP qX pP pT pX oO pP pT pX oU pO qP qX
pP pR qX pT pX nE oP oX nI oE pP pX oP oT oX nO oP oT oX nU oO pX oP oR pX oT oX mE nX mFA oP oT oX
nI oP oT oX nO oP oX nU oP oR pX oT oX nY oP oT oX mGA oP oT oX nE oP oT oX nGA pP pT pX oE pP pT pX
oI pE qP qX pT pX oO pP pT pX oU pO qP qT qX pP pR qX pT pX nI oE pP pT pX oP oT oX nO oP oT oX nU
oO pP pT pX oP oR pX oT oX mHA oP oT oX nE oP oX nIE pX oT nLA pP pT pX oE pP pX oI pE qP qX pP pT
pX oO pP pX oU pO qP qX pP pR qX pT pX oY pP pR qX pT pX nMA pP pT pX oI pE qP qX pP pT pX oO pP pT
pX oU pO qP qX pP pR qX pT pX oY pP pR qX pX nNA pP pT pX oE pP pX oI pE qP qT qX pP pT pX oOP pT pX
oUO qX pT nO oP oT oX nUO pP pT pX nXA pP pT pX oE pP pX oI pE qP qT qX pP pT pX oO pP pT pX oUO qP
qT qX mI nE oP oT oX nP nT oERATION_MARK nX mJI oE pP pT pX oP oT oX nJI pE qP qT qX pP pT pX oO pP
pT pX oU pO qP qX pP pR qX pT pX oY pP pT pX nO oP oT oX nU oO pP pT pX oP oR pX oT oX nY oP oR pX
oT oX mKA oP oT oX nE oP oT oX nI oE pP pX oP oT oX nO oP oT oX nU oO pP pX oP oR pX oT oX mLA oP oT
oX nE oP oX nI oE pP pT pX oP oT oX nO oP oT oX nU oO pP pT pX oP oR pX oT oX nY oP oR pX oT oX mMA
oP oT oX nE oX nGA pP pT pX oE pP pX oIE qX oO pP pT pX oU pO qP qX pP pR qX pT pX nI oE pP pX oP oT
oX nO oP oT oX nU oO pP pT pX oP oR pX oT oX nY oP oT oX mNA oP oX nBA pP pT pX oI pE qP qX pP pT pX
oO pP pT pX oU pP pR qX pT pX oY pP pR qX pT pX nDA pP pT pX oE pP pX oI pE qX pP pT pX oO pP pT pX
oU pP pR qX pT pX nE oP oX nGA pP pT pX oE pP pX oIE qP qX oO pP pT pX oUO qT qX nI oE pP pX oP oT
oX nJI pE qP qT qX pP pT pX oO pP pT pX oU pO qX pP pR qX pX oY pP pR qX pT pX nO oP oT oX nRA pP pT
pX oE pP pT pX oO pP pX oU pP pR qX pT pX oY pP pR qX pT pX nU oO pP pX oP oR pX oT oX nYI pE qP qT
qX pP pT pX oO pP pT pX oU pO qP qX pP pT pX nZA pP pT pX oE pX oI pE qP qX pP pT pX oOP pX oU pO qX
pP pR qX pX oY pP pR qX pT pX mO nP nT nX mPA oP oT oX nI oE pP pX oP oT oX nO oP oT oX nU oO pP pX
oP oR pX oT oX nY oP oR pX oT oX mQI oE pP pT pX oP oT oX nO oP oT oX nU oO pP pT pX oP oR pX oT oX
nY oP oR pX oT oX mRA oP oT oX nE oP oX nO oP oT oX nRA pX oE pP pT pX oO pP pT pX oU pO qX pP pR qX
pT pX oY pP pR qX pT pX nU oO pP pX oP oR pX oT oX nY oP oR pX oT oX mSA oP oT oX nE oP oX nHA pP pT
pX oE pP pT pX oO pP pT pX oU pO qP qX pP pR qX pT pX oY pP pR qX pT pX nI oE pP pX oP oT oX nO oP
oT oX nSA pP pT pX oE pP pX oI pE qP qX pP pT pX oO pP pT pX oU pP pT pX oY pP pR qX pT pX nU oO pP
pX oP oR pX oT oX nY oP oR pX oT oX mTA oP oT oX nE oP oX nI oE pP pX oP oT oX nO oP oT oX nU oO pP
pT pX oP oR pX oT oX mUO oP oX mVA oP oT oX nEP oX nI oE pP pT pX oP oT oX nO oP oT oX nU oP oR pX
oT oX nY oP oR pX oT oX mWA oP oT oX nE oP oX nO oP oX nU oO pP pX mXI oE pP pT pX oP oT oX nO oP oT
oX nUO pX nY oP oR pX oT oX mYI oE pP pT pX oP oT oX nO oP oT oX nU oO pP pT pX oP oR pX oT oX nY oP
oR pX oT oX mZA oP oT oX nE oP oX nHA pP pT pX oE pP pT pX oO pP pT pX oU pO qP qX pP pR qX pT pX oY
pP pR qX pT pX nI oE pP pX oP oT oX nO oP oT oX nU oO pP pX oP oR pX oT oX nY oP oR pX oT oX nZA pP
pT pX oE pP pX oI pE qP qT qX pP pT pX oO pP pX oU pP pR qX pX oY pP pR qX pT pX cN_YANG bO-YO"

def namesWithZ : String := "
aZ_NOTATION_BAG_MEMBERSHIP lDOMAIN_ANTIRESTRICTION lLEFT_BINDING_BRACKET qIMAGE_BRACKET
lRANGE_ANTIRESTRICTION mELATIONAL_COMPOSITION mIGHT_BINDING_BRACKET rIMAGE_BRACKET
lSCHEMA_COMPOSITION sPIPING tROJECTION mPOT lTYPE_COLON
bANABAZAR_SQUARE_CLOSING_DOUBLE-LINED_HEAD_MARK zHEAD_MARK tUSTER-FINAL_LETTER_LA znRA znVA znYA
zINITIAL_LETTER_RA rFINAL_CONSONANT_MARK rINITIAL_DOUBLE-LINED_HEAD_MARK zHEAD_MARK rLETTER_-A yA
yBA zHA yCA zHA yDA zDA zbHA zHA zZA zbHA yGA zHA yHA yJA yKA zHA zSSA yLA yMA yNA zGA zNA zYA yPA
zHA yRA ySA zHA zSA yTA zHA zSA zbHA zTA zbHA yVA yYA yZA zHA rMARK_DOUBLE_SHAD wLONG_TSHEG wSHAD
wTSHEG rSIGN_ANUSVARA wCANDRA_WITH_ORNAMENT zdBINDU zi_WITH_ORNAMENT wVIRAMA ySARGA sUBJOINER
rVOWEL_LENGTH_MARK xSIGN_AI zeU zdE zdI zdO zeE zdREVERSED_I zdU zeE bEBRA_FACE cRO_WIDTH_JOINER
lNO-BREAK_SPACE nN-JOINER lSPACE cUS bIPPER-MOUTH_FACE bNAMENNY_COMBINING_ATTACHING_VERTICAL_OMET
tLOWER_TONAL_RANGE_INDICATOR tMARK_BORZAYA yCHASHKA zg_POLNAYA zURVED_OMET yDEMESTVENNY_ZADERZHKA
zVOETOCHIE yGORAZDO_NIZKO_ON_LEFT zqRIGHT znS_KRYZHEM_ON_LEFT zzbRIGHT zhVYSOKO yKACHKA zRYZH
ze_ON_LEFT zUPNAYA yLOMKA yMALO_POVYSHE_ON_LEFT zpRIGHT zmS_KHOKHLOM_ON_LEFT zzbRIGHT zpRYZHEM
znTRANNO yNIZKO_ON_LEFT ziRIGHT zfS_KRYZHEM_ON_LEFT zsRIGHT yOBLACHKO zN zTSECHKA yPODCHASHIE
zj_WITH_VERTICAL_STROKE zcVERTKA zbVYSHE_ON_LEFT zkRIGHT zhS_KHOKHLOM_ON_LEFT zvRIGHT zkRYZHEM
ziTRANNO yRAVNO zbZSEKA ySKOBA zOROCHYA_NOZHKA zREDNE_ON_LEFT zjRIGHT zTRANNO_MALO_POVYSHE yTIKHAYA
zOCHKA zSATA_ON_LEFT ziRIGHT zfS_KRYZHEM yUDARKA yVYSOKO_ON_LEFT zjRIGHT zgS_KHOKHLOM_ON_LEFT
zuRIGHT zjRYZHEM yZADERZHKA zELO zbVOK tTONAL_RANGE_MARK_MRACHNO zlSVETLO zlTRESVETLO jNEUME_CHASHKA
rELYUSTKA pDEMESTVENNY_KLYUCH rRBITSA qOUBLE_ZAPYATAYA qUDA qVA_V_CHELNU pFITA pGOLUBCHIK_BORZY
zMRACHNY zSVETLY zTIKHY zbRESVETLY pKHAMILO qLYUCH qOBYLA qRYUK u_TIKHY sZH qUFISMA pMECHIK
v_KLYUCHENEPOSTOYANNY zePOVODNY zeVOY wPOVODNY pNEMKA pOBLAKO qSOKA u_KLYUCHEVAYA_NEPOSTOYANNAYA
ziSVETLAYA wRYUKOVAYA_SVETLAYA vSVETLAYA vTRESVETLAYA pPALKA rRAKLIT rUK qEREVODKA y_NEPOSTOYANNAYA
qODCHASHIE rLKULIZMY pREVERSED_CHELYUSTKA qOG pSKAMEYTSA_DVOECHELNAYA_KLYUCHEVAYA znNEPOSTOYANNAYA
znPROSTAYA znSVETLAYA zKLYUCHENEPOSTOYANNAYA zhVAYA_SVETLAYA zmTIKHAYA zMRACHNAYA zSVETLAYA zTIKHAYA
zbRESVETLAYA qLOZHITIE y_S_KRYZHEM zcZAPYATOY zZAKRYTOE qTATYA v_NEPOSTOYANNAYA wS_DVUMYA_ZAPYATYMI
yKRYZHEM zg_I_ZAPYATOY yROGOM yZAPYATOY zh_I_KRYZHEM zkPODCHASHIEM wZAKRYTAYA zg_S_ZAPYATOY rOPITSA
x_S_OCHKOM yWITH_SOROCHYA_NOZHKA rRELA_DVOECHELNAYA zj_KLYUCHEVAYA zgOKRYZHEVAYA zhPOVODNAYA
zq_KLYUCHEVAYA wGROMNAYA zf_WITH_SINGLE_ZAPYATAYA zbOKRYZHEVAYA zm_POVODNAYA zcPOVODNAYA
zl_WITH_DOUBLE_ZAPYATAYA zrSINGLE_ZAPYATAYA wKLYUCHENEPOSTOYANNAYA zePOVODNAYA xRYUKOVAYA
zh_GROMNAYA zq_WITH_SINGLE_ZAPYATAYA zmOKRYZHEVAYA zx_POVODNAYA znPOVODNAYA zw_WITH_DOUBLE_ZAPYATAYA
zzdSINGLE_ZAPYATAYA ziPOVODNAYA ziTRYASKA zZHEVAYA wMRACHNOTIKHAYA wNEPOSTOYANNAYA wPOLUPOVODNAYA
yVODNAYA xROSTAYA wTIKHAYA_PUTNAYA xRYASOGLASNAYA zdPOVODNAYA zdSTRELNAYA
pVRAKHIYA_KLYUCHEVAYA_MRACHNAYA zlPROSTAYA zlSVETLAYA zlTRESVETLAYA yMRACHNAYA yPROSTAYA ySVETLAYA
yTRESVETLAYA pZANOZHEK rPYATAYA qMEYTSA jPRIZNAK_MODIFIER_DIRECTION_FLIP zbKRYZH zbLEVEL-2 zh3 zbROG
bOMBIE bWJ cNBSP dJ cSP"

/-- The entries of the names that start with a letter. -/
def nameTable : (initial : Char) → String
  | 'A' => namesWithA
  | 'B' => namesWithB
  | 'C' => namesWithC
  | 'D' => namesWithD
  | 'E' => namesWithE
  | 'F' => namesWithF
  | 'G' => namesWithG
  | 'H' => namesWithH
  | 'I' => namesWithI
  | 'J' => namesWithJ
  | 'K' => namesWithK
  | 'L' => namesWithL
  | 'M' => namesWithM
  | 'N' => namesWithN
  | 'O' => namesWithO
  | 'P' => namesWithP
  | 'Q' => namesWithQ
  | 'R' => namesWithR
  | 'S' => namesWithS
  | 'T' => namesWithT
  | 'U' => namesWithU
  | 'V' => namesWithV
  | 'W' => namesWithW
  | 'X' => namesWithX
  | 'Y' => namesWithY
  | 'Z' => namesWithZ
  | _ => ""

end EditorAssist.Text
