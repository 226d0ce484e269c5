/-!
# Names of characters from U+12000 to U+1CFFF: cuneiform, hieroglyphs and the like
-/

namespace ModuleBridge.Text

/-- Lines of names. -/
def pictographNames : List String := [
  "12000aCUNEIFORM SIGN Aq TIMES AxBADxGAN2 TENUxHAxIGIxLAGAR GUNUxMUSHxSAGq2qBr TIMES ASH2",
  "1200CyDUN3 GUNUyGALzbN2 TENUyHAyIGI GUNUzMINyLAGABySHESHyU PLUS U PLUS UsGUNUr2s TIMES BALAG",
  "12018zGAN2 TENUzME PLUS ENzSHA3zTAK4qDqKr TIMES ERIN2ySHITA PLUS GISHqLr TIMES ALyDIM2yGISHyHA",
  "12025yKAD3zIySHEyUSHrANrEPHqMARt TIMES SHEqNr OVER ANsTHREE TIMES",
  "12030sPLUS NAGA OPPOSING AN PLUS NAGAzdSQUAREDrSHEqPINqRADt TIMES KURrKABqSAL2rHs ZIDA TENU",
  "1203AtKABA TENUtOVER ASH TUG2 OVER TUG2 TUG2 OVER TUG2 PAPzdOVER ASH",
  "1203Dzl CROSSING ASH OVER ASH OVER ASHs2sGABpBArDrG3rHAR2rLs OVER BALsAGrRsA2qIr TIMES AyGAR",
  "1204CyIGI GUNUqUr OVER BU ABzbUNsCROSSING BUrLUGu OVER BULUGrRs2pDArG",
  "12057s KISIM5 TIMES A PLUS MASHziMARzhBALAGziIzhGAzj PLUS MASHziIzjR2ziUDzhHAzhIRzj PLUS LU",
  "12063zhKAKzhLAziUzj PLUS MASH2zjMzhNEzhPAP PLUS PAPzhSIzhTAK4zhU2 PLUS GIR2ziSHrMrRsA3t4qIrBrM",
  "12075s TIMES SHEs2rNs KASKAL U GUNU DISHrSHqUr OVER DUsGUNUsSHESHIGrBs TIMES ESH2s2rGsUDrHrNs3",
  "12086t GUNUy GUNUs4rR2pEq TIMES PAPrOVER E NUN OVER NUNq2r TIMES A PLUS HA PLUS DAyGARyMIySAL",
  "12092zHEyUqDINqGIRqLqNr TIMES GAN2zd TENUyMEsCROSSING ENsOPPOSING ENsSQUAREDqRENrIN2qSH2qZEN",
  "120A2t TIMES Azc PLUS LALzl TIMES LALzcNzbBADzbDUN3 GUNUzk GUNUzbHAzd GUNUzbIGI GUNUzbKASKAL",
  "120ADzh SQUAREDzcU3zbLAzdL TIMES LALzcIzcUzbU2zcDpGAr GUNUr2s TIMES A PLUS DA PLUS HAzhHAzhIGI",
  "120BBzbB2 TENU PLUS TABzbNzbSHzd2 PLUS GALzBADzcR PLUS RAzbURzd PLUS RAzDAzbIzcM TIMES SHEzbUB",
  "120C7zELzc PLUS LAzbNzc TIMES GAN2 TENUzGAN2 TENUzcRzbIzc4zd PLUS AzcR2 PLUS SU",
  "120D1zHA PLUS LU PLUS ESH2zcLzd PLUS LAzbI PLUS LIzbUB2zIGI GUNUzbSH PLUS HU PLUS ASHzKAK",
  "120D9zcSKALzbIDzd PLUS LALzbU3 PLUS ANzLAzME PLUS ENzbIzNUNzd OVER NUNzPAzSALzcRzbHE",
  "120E6zd PLUS TURzcIDzbUMzTAK4zUzbDzc PLUS DUtOVER GA2rBAt CROSSING GABArD",
  "120F1s OVER GAD GAR OVER GARrLs GAD OVER GAD GAR OVER GARsAMrMrNs2t TENUuOVER GAN2",
  "120FAuCROSSING GAN2rRs3rSHANqESHTINw TIMES KURqIr TIMES EyUsCROSSING GIr4s OVER GI4",
  "12106tCROSSING GI4rDIMrR2t GUNUs3t TIMES A PLUS IGIzbGAN2 TENUzbIGIzbLU PLUS IGIzbPArSALsH",
  "12112t CROSSING GISHuTIMES BADzbTAK4vENUqUr CROSSING GUr2s TIMES KAKzd TIMES IGI GUNUzNUN",
  "1211CzSAL PLUS TUG2tGUNUrDs TIMES A PLUS KURzKURtOVER GUD LUGALrLrMs TIMES SHErRs7sUNtSHpHA",
  "1212Ar TENUsGUNUrLqIr TIMES ASHzc2yBADyDISHyGADyKINyNUNySHEyUqUrB2t TIMES ANzbHALzbKASKAL",
  "1213CzbLISHzbUDrL2pIq AqBqDIMt OVER IDIM BURzfSQUAREDqGrIs DIBtRI",
  "12149tOVER IGI SHIR OVER SHIR UD OVER UDtGUNUqLr TIMES GAN2 TENUr2qMr TIMES TAK4sCROSSING IM",
  "12151sOPPOSING IMsSQUAREDrINqNqRqSHpKAr TIMES AzDzb PLUS KU3zSH2yBADzbLAGzbRzIyERIN2zSH2yGAzbL",
  "12164zbN2 TENUzbRzc PLUS SHA3 PLUS AzIzbR2zbSH PLUS SARzeCROSSING GISHzUzbR7yIGIzMyKAKzIzbDyLI",
  "12173zUyMEzb PLUS DUzhGIzhTEzIzb PLUS NUNUZyNEzUNyPIyRUySAzbRzHAzbEzbIDzbUzIGzUHURyTARyUz2zD",
  "1218AzMUM TIMES PAzSHyZIr2s CROSSING KA2rBrD2s3s4s5t OVER KAD5rKs TIMES IGI GUNUrLs TIMES BAD",
  "12199tCROSSING KALrM2s4rSKALv LAGAB TIMES U OVER LAGAB TIMES U",
  "1219EwOVER KASKAL LAGAB TIMES U OVER LAGAB TIMES UqESH2qIr TIMES BADyUzDrDrNrSALsHsIM5",
  "121A9v OVER KISIM5qUr OVER HI TIMES ASH2 KU OVER HI TIMES ASH2r3r4s VARIANT FORMr7rLs GUNUrNrR",
  "121B4s OPPOSING KURrSHU2qWU318pLArGABu TIMES Azd PLUS DA PLUS HAzjGARzjLALzdLzdNzdSH ZIDA TENU",
  "121C0zcBADzdIzcDARzcENzcGAzeRzdUDzf PLUS GUDzcHAzeLzdI TIMES NUNzcIGI GUNUzdMze PLUS HAzkLU",
  "121CFzcKIzeNzdU3zeLzf PLUS HI PLUS AzcLAGABzdISHzdUzeLzcMEze PLUS ENzdUSHzcNEzcSHE PLUS SUM",
  "121DDzeITA PLUS GISH PLUS ERIN2zsTENUzeU2zg PLUS SHU2zdUMzcTAGzeK4zdE PLUS A PLUS SU PLUS NA",
  "121E5zcUzd PLUS AzjU PLUS Uzd2 PLUS ASHzdDzdSHvSQUAREDtRu TIMES SHEzf PLUS SUMvGUNU",
  "121F0z OVER LAGAR GUNU SHErHSHUrLs TIMES LALrMs TIMES KURzd PLUS RUqIrLrMMU2rSHqUr TIMES BADr2",
  "121FEs TIMES ALzBADzESH2ze TENUzGAN2 TENUzHI TIMES BADzIMzKAD2zd3ze PLUS ASHzbIzLA PLUS ASH",
  "1220AzcGABzME PLUS ENzNEzbUzSI PLUS ASHzcK2 PLUS BUzTUG2uENUtCROSSING LU2tOPPOSING LU2tSQUARED",
  "12215uHESHIGr3rGALu OVER LUGALwPPOSING LUGALvSHESHIGrHrLrMs OVER LUMzc GAR OVER GARpMA",
  "12221r TIMES TAK4sGUNUr2rHrRrSHt2qErSqIrNqUr OVER MUrGs GUNUrNSUBrRGU2rSHt TIMES AzbKURzbZA",
  "12236uOVER MUSHze TIMES A PLUS NAuCROSSING MUSHt3u TIMES Azd PLUS DIzcDIvGUNUpNAr2rGA",
  "12241t INVERTEDuTIMES SHU TENUuOPPOSING NAGAtRrM NUTILLUrMs2qEr TIMES AyUDsSHESHIGqIr TIMES E",
  "1224Er2rMs TIMES GAN2 TENUzcR PLUS GAN2 TENUrNDA2v TIMES ANzeSHzg PLUS ASHzdGUD",
  "12257zdME PLUS GAN2 TENUzdNEzeUNzdSHEzg PLUS A ANznSHzp PLUS ASHzdU2 PLUS ASHzeSHrSAGqUr11rN",
  "12264s LAGAR TIMES GARzgMASHzgSALzj OVER NUN LAGAR TIMES SALzgUSHtTENUtOVER NUNtCROSSING NUN",
  "1226Czg LAGAR OVER LAGARsUZu AB2 TIMES ASHGABzgBIzgDUGzgGUDzgIGI GUNUzgKAD3zgLAzgNEzgSILA3zgU2",
  "12278vKISIM5 TIMES BIzl UpPArDrNrPqESH2qIr TIMES AzByBIzUyEyIzByUz2sCROSSING PIrRIGu TIMES KAL",
  "1228CzcUDzcZAvOPPOSING PIRIGpRArBqIqUpSArG NUTILLUrGs TIMES AzDUzcBzHAzKAKzbURzLUMzMIzNUNzSAL",
  "122A0zbHIDzTABzU2zbBzbMzbRzbSHtOVER SAGtGUNUrLs LAGAB TIMES ASH2rNGA2rRqHAs3t TIMES AzbBAD",
  "122B1zbGISHzbNEzbSHU2zbTURzbUzc PLUS As6sB6sR2rEs HUtOVER SHE GAD OVER GAD GAR OVER GAR",
  "122BDzdTAB OVER TAB GAR OVER GARsG9sNsSHu2uLAMrIDt TIMES AzbIMsMt TIMES AzbBALzcULUGzbDINzbGAR",
  "122CCzbIGIze GUNUzbKUSHU2zbLULzbMUGzbSALsNIGsRt TENUuOVER SHIR BUR OVER BURsTArU",
  "122D8s OVER INVERTED SHUs2sBURqIr GUNUrGs4t OVER SIG4 SHU2rK2rLA3qUr OVER SUrDs2rHURrMsASHrRs9",
  "122EBpTAr ASTERISKsTIMES HIyMIsGUNUrBs OVER TAB NI OVER NI DISH OVER DISHtSQUAREDrGs TIMES BI",
  "122F5zGUDzSHEzcUzTUG2zUDrK4rRqEr GUNUqIr TENUrLrRs TIMES TAK4tOVER TIR",
  "12304zc GAD OVER GAD GAR OVER GARqUrG2rKrMrRs OVER TUR ZA OVER ZApUq GUDrU U",
  "1230ErOVER U PA OVER PA GAR OVER GARySUR OVER SURyU REVERSED OVER U REVERSEDq2qBqDr KUSHU2",
  "12315sTIMES BADyMIyU PLUS U PLUS Uzo GUNUsGUNUsSHESHIGz TIMES BADrUGqMr TIMES LAGAByME PLUS DA",
  "12320ySHA3yUrBINrUMt TIMES KASKALzbPAqNr GUNUqRr CROSSING URsSHESHIGr2s TIMES A PLUS HAzhNAzbL",
  "1232FzHAzNUNzU2zc PLUS ASHziBIr4rIs3rUs TIMES AzbSHGABzBARzDUNzGAzcLzcN2 TENUzcRzbUzHAzIGIzbM",
  "12344zbSHzKIzLUMzMINzPAzSHEzbIG4zTUzU PLUS GUDzbDzbRUDAsDAu TIMES UqSHs TIMES AzKUzcRzTAK4sXs2",
  "12358sUMXqTUKIqZ3s TIMES KASKALrUpZAr TENUsSQUARED TIMES KURrGrMXqE2qIr OVER ZIr3rBs KABA TENU",
  "12368rGrZ2qUr5s TIMES ArBURrMpKAP ELAMITEpAB TIMES NUNr2 TIMES AqMAR TIMES KUG",
  "12373pDAG KISIM5 TIMES U2 PLUS MASHs3qISH PLUS SHUqUB TIMES SHEpEZEN TIMES GUDzbSHE",
  "12379pGA2 TIMES AN PLUS KAK PLUS AzbSH2qE22qIGpHUSHpKA TIMES ANSHEzSH3yGISHzUDyHI TIMES ASH2",
  "12383yLUMyPAySHULyTUyUR2pLAGAB TIMES GIqU2 SHESHIG TIMES BADtTIMES ESH2 PLUS LALzSHUpMESH",
  "1238DqUSH3 TIMES ZApNA4qINs9sDA2 TIMES BALzdGIqU11 ROTATED NINETY DEGREESpPESH2 ASTERISKqIR2",
  "12396pSAG TIMES IGI GUNUpTI2pUM TIMES MEq U",
  "12400kNUMERIC SIGN TWO ASHyHREE ASHxFOUR ASHyIVE ASHxSIX ASHyEVEN ASHxEIGHT ASHxNINE ASH",
  "12408xTHREE DISHxFOUR DISHyIVE DISHxSIX DISHyEVEN DISHxEIGHT DISHxNINE DISHxFOUR UyIVE UxSIX U",
  "12412yEVEN UxEIGHT UxNINE UxONE GESH2xTWO GESH2yHREE GESH2xFOUR GESH2yIVE GESH2xSIX GESH2",
  "1241ByEVEN GESH2xEIGHT GESH2xNINE GESH2xONE GESHUxTWO GESHUyHREE GESHUxFOUR GESHUyIVE GESHU",
  "12423xTWO SHAR2yHREE SHAR2zj VARIANT FORMxFOUR SHAR2yIVE SHAR2xSIX SHAR2yEVEN SHAR2",
  "1242AxEIGHT SHAR2xNINE SHAR2xONE SHARUxTWO SHARUyHREE SHARUzj VARIANT FORMxFOUR SHARU",
  "12431yIVE SHARUxSHAR2 TIMES GAL PLUS DISHztMINxONE BURUxTWO BURUyHREE BURUzi VARIANT FORM",
  "12438xFOUR BURUyIVE BURUxTHREE VARIANT FORM ESH16zu21xFOUR VARIANT FORM LIMMUzv4zv AzwB",
  "12440xSIX VARIANT FORM ASH9yEVEN VARIANT FORM IMIN3zv AzwBxEIGHT VARIANT FORM USSUzv3",
  "12446xNINE VARIANT FORM ILIMMUzw3zw4zw AxTWO ASH TENUyHREE ASH TENUxFOUR ASH TENUyIVE ASH TENU",
  "1244ExSIX ASH TENUxONE BAN2xTWO BAN2yHREE BAN2xFOUR BAN2zh VARIANT FORMyIVE BAN2",
  "12455zh VARIANT FORMxNIGIDAMINzeESHxONE ESHE3xTWO ESHE3xONE THIRD DISHxTWO THIRDS DISH",
  "1245CxFIVE SIXTHS DISHxONE THIRD VARIANT FORM AxTWO THIRDS VARIANT FORM AxONE EIGHTH ASH",
  "12460zcQUARTER ASHyLD ASSYRIAN ONE SIXTHzpQUARTERyNE QUARTER GURzcHALF GURxELAMITE ONE THIRD",
  "12466zgTWO THIRDSzgFORTYzhIFTYxFOUR U VARIANT FORMyIVE U VARIANT FORMxSIX U VARIANT FORM",
  "1246CyEVEN U VARIANT FORMxEIGHT U VARIANT FORMxNINE U VARIANT FORM",
  "12470kPUNCTUATION SIGN OLD ASSYRIAN WORD DIVIDERzcVERTICAL COLONzcDIAGONAL COLONzlTRICOLON",
  "12474zlQUADCOLON",
  "12480kSIGN AB TIMES NUN TENUySHU2qD TIMES ESH2pBAD TIMES DISH TENUrHAR2 TIMES AB2zdNIzdZA",
  "12487qU OVER BU TIMES NA2pDA TIMES TAK4rG TIMES KURqIM TIMES IGIzU U Us2 TIMES UD",
  "1248DqUG TIMES ANSHEzbSHzd AT LEFTzDINzbUNzERIN2zGAzbIzcR2 GUNUzcSHzHAzbIzIGI GUNUzKASKALzbUR",
  "1249CzcSHU2zg PLUS KASKALzLAK-020zcMzd TIMES KURzbUH PLUS GISHzMASHzbESzbIzNIzPIzSHEzbI GUNU",
  "124A9pE2 TIMES KURyPAPqRIN2 XqSH2 CROSSING ESH2qZEN SHESHIG TIMES ASHzjHIzjIGI GUNUzjLAzlLzjME",
  "124B3zlSzjSUuTIMES SUpGA2 TIMES BAHAR2zDIM GUNUzbUG TIMES IGI GUNUzkKASKALzERENzGAzcR PLUS DI",
  "124BDzjNEzHA PLUS AzKUSHU2 PLUS KASKALzLAMzd TIMES KURzbUHzMUSHzNEzc PLUS E2ziGIzSHIMzZIZ2",
  "124C9rBA ROTATED NINETY DEGREESqESHTIN TIMES UqISH TIMES GISH CROSSING GISHqU2 TIMES IGI GUNU",
  "124CDrD PLUS GISH TIMES TAK4pHA TENU GUNUqI TIMES ASH OVER HI TIMES ASHpKA TIMES BUyKAyU U UzR",
  "124D4pLAGAB TIMES ZU OVER ZUrK-003u21v5u30u50v1u62u79 OVER LAK-079 GUNUu80v1 OVER LAK-081u92",
  "124E0t130u42t210v9u20v5v8u38u65v6t343v7v8u83v4u90t441v9w TIMES GUzeIGIzePAP PLUS LU3",
  "124F5znPAP PLUS LU3zeU2 PLUS BAu50v7u70u83u90v2v3v5t550t608u17w TIMES ASHzeBADzeDUN3 GUNU GUNU",
  "12505zeKU3zeLAzeTARzfEzeU2zfDzfRUDAu36u48w TIMES DUBzeGAzeIGIzh GUNUzeNI",
  "12513zePAP PLUS PAP PLUS LU3zeSHESH PLUS KIzeUDzfRUDAt724u49qU2 GUNU TIMES ASHtTIMES DISHzHAL",
  "1251CzPAPzd PLUS PAP PLUS LU3zTAK4pMI PLUS ZA7qUSH OVER MUSH TIMES GAzlKAK",
  "12522pNINDA2 TIMES DIM GUNUzdGISHzeULzdHIzdKESH2zdLAK-050zdMASHzdPAP PLUS PAPzdUze PLUS U",
  "1252CzeRUDApSAG GUNU TIMES HAtTIMES ENzSHE AT LEFTzTAK4qHA6 TENUrE OVER SHEtPLUS HUB2yNAM2ySAR",
  "12536rU2 PLUS DUG TIMES NIzE2 TIMES ANqI TIMES TAK4pTAK4 PLUS SAGqUM TIMES GAN2 TENU",
  "1253BzTHREE DISHpUR2 INVERTEDtTIMES UDrU TIMES DARA3zLAK-668zbU3pZA7qU OVER ZU PLUS SAR",
  "12543r5 TIMES THREE DISH TENU",
  "12F90bYPRO-MINOAN SIGN CM001w2w4w5w6w7w8w9v10w1w2xBw3w5w7w9v21w3w4w5w6w7w8w9v30w3w4w5w6w7w8w9",
  "12FB0v40w1w4w6w7w9v50w1w2w3w4w5w6w8w9v60w1w2w3w4w6w7w8w9v70w1w2w3w4w5xBw6w8w9v80w1w2w3w4w5w6w7",
  "12FDAw8w9v90w1w2w4w5w6w7w8w9u100w1w2w3w4w5w7w8w9v10w2w4u301w2",
  "13000aEGYPTIAN HIEROGLYPH A001x2x3x4x5yAx6yAyBx7x8x9w10x1x2x3x4yAx5x6x7yAx8x9w20x1x2x3x4x5x6x7",
  "13020x8x9w30x1x2yAx3x4x5x6x7x8x9w40yAx1x2yAx3yAx4x5yAx6x7x8x9w50x1x2x3x4x5x6x7x8x9w60x1x2x3x4",
  "1304Ax5x6x7x8x9w70uB001x2x3x4x5yAx6x7x8x9uC001x2yAyByCx3x4x5x6x7x8x9w10yAx1x2x3x4x5x6x7x8x9w20",
  "13072x1x2x3x4uD001x2x3x4x5x6x7x8yAx9w10x1x2x3x4x5x6x7x8x9w20x1x2x3x4x5x6x7yAx8x9w30x1yAx2x3x4",
  "1309ByAx5x6x7x8x9w40x1x2x3x4x5x6yAx7x8yAx9w50yAyByCyDyEyFyGyHyIx1x2yAx3x4yAx5x6x7x8x9w60x1x2x3",
  "130C6x4x5x6x7yAyByCyDyEyFyGyHuE001x2x3x4x5x6x7x8yAx9yAw10x1x2x3x4x5x6yAx7yAx8x9w20yAx1x2x3x4x5",
  "130F0x6x7x8yAx9w30x1x2x3x4yAx6x7x8uF001yAx2x3x4x5x6x7x8x9w10x1x2x3yAx4x5x6x7x8x9w20x1yAx2x3x4",
  "13119x5x6x7x8x9w30x1yAx2x3x4x5x6x7yAx8yAx9w40x1x2x3x4x5yAx6yAx7yAx8x9w50x1yAyByCx2x3uG001x2x3",
  "13142x4x5x6yAx7yAyBx8x9w10x1yAx2x3x4x5x6x7x8x9w20yAx1x2x3x4x5x6yAx7x8x9w30x1x2x3x4x5x6yAx7yAx8",
  "1316Dx9w40x1x2x3yAx4x5yAx6x7x8x9w50x1x2x3x4uH001x2x3x4x5x6yAx7x8uI001x2x3x4x5yAx6x7x8x9yAw10yA",
  "13195x1yAx2x3x4x5uK001x2x3x4x5x6x7x8uL001x2yAx3x4x5x6yAx7x8uM001yAyBx2x3yAx4x5x6x7x8x9w10yAx1",
  "131BCx2yAyByCyDyEyFyGyHx3x4x5yAx6yAx7yAx8x9w20x1x2yAx3x4yAx5x6x7x8yAx9w30x1yAx2x3yAyBx4x5x6x7",
  "131E7x8x9w40yAx1x2x3x4uN001x2x3x4x5x6x7x8x9w10x1x2x3x4x5x6x7x8yAyBx9w20x1x2x3x4x5yAx6x7x8x9w30",
  "13210x1x2x3yAx4yAx5yAx6x7yAx8x9w40x1x2vL001y2y3y4y5zAy6y7y8y9x10y1y2y3y4y5y6y7zAy8y9x20vU001y2",
  "13238y3y4y5y6y7y8y9x10zAy1zAy2y3y4y5y6y7y8zAy9x20y1y2zAuO001yAx2x3x4x5yAx6yAyByCyDyEyFx7x8x9",
  "13261w10yAyByCx1x2x3x4x5x6x7x8x9yAw20yAx1x2x3x4yAx5yAx6x7x8x9yAw30yAx1x2x3yAx4x5x6yAyByCyDx7x8",
  "1328Cx9w40x1x2x3x4x5x6x7x8x9w50yAyBx1uP001yAx2x3yAx4x5x6x7x8x9w10x1uQ001x2x3x4x5x6x7uR001x2yA",
  "132B2x3yAyBx4x5x6x7x8x9w10yAx1x2x3x4x5x6yAx7x8x9w20x1x2x3x4x5x6x7x8x9uS001x2yAx3x4x5x6yAx7x8x9",
  "132DCw10x1x2x3x4yAyBx5x6x7yAx8x9w20x1x2x3x4x5x6yAyBx7x8x9w30x1x2x3x4x5yAx6x7x8x9w40x1x2x3x4x5",
  "13306x6uT001x2x3yAx4x5x6x7yAx8yAx9yAw10x1yAx2x3x4x5x6yAx7x8x9w20x1x2x3x4x5x6x7x8x9w30x1x2yAx3",
  "1332FyAx4x5x6uU001x2x3x4x5x6yAyBx7x8x9w10x1x2x3x4x5x6x7x8x9w20x1x2x3yAx4x5x6x7x8x9yAw30x1x2yA",
  "13358x3x4x5x6x7x8x9w40x1x2uV001yAyByCyDyEyFyGyHyIx2yAx3x4x5x6x7yAyBx8x9w10x1yAyByCx2yAyBx3x4x5",
  "13382x6x7x8x9w20yAyByCyDyEyFyGyHyIyJyKyLx1x2x3yAx4x5x6x7x8yAx9yAw30yAx1yAx2x3yAx4x5x6x7yAx8x9",
  "133ADw40yAuW001x2x3yAx4x5x6x7x8x9yAw10yAx1x2x3x4yAx5x6x7yAx8yAx9w20x1x2x3x4yAx5uX001x2x3x4yAyB",
  "133D5x5x6yAx7x8yAuY001yAx2x3x4x5x6x7x8uZ001x2yAyByCyDx3yAyBx4yAx5yAx6x7x8x9w10x1x2x3x4x5yAyByC",
  "133FEyDyEyFyGyHyIx6yAyByCyDyEyFyGyHuAA001y2y3y4y5y6y7zAzBy8y9x10y1y2y3y4y5y6y7y8y9x20y1y2y3y4",
  "13427y5y6y7y8y9x30y1y2",
  "13430uVERTICAL JOINERuHORIZONTAL JOINERuINSERT AT TOP STARTzfBOTTOM STARTzfTOP ENDzfBOTTOM END",
  "13436uOVERLAY MIDDLEuBEGIN SEGMENTuEND SEGMENT",
  "14400aANATOLIAN HIEROGLYPH A001y2y3y4y5y6y7y8y9x10zAy1y2y3y4y5y6y7y8y9x20y1y2y3y4y5y6zAy7y8y9",
  "1441Fx30y1y2y3y4y5y6y7y8y9zAx40y1zAy2y3y4y5zAy6zAzBy7y8y9x50y1y2y3y4y5y6y7y8y9x60y1y2y3y4y5y6",
  "14449zAzBzCy7y8y9x70y1y2y3y4y5y6y7y8y9x80y1y2y3y4y5y6y7y8y9x90y1y2y3y4y5y6y7zAy8zAy9w100zAy1zA",
  "14473y2zAy3y4zAzBzCy5zAzBy6y7zAzBzCy8y9x10zAzBy1y2y3y4y5zAy6y7y8y9x20y1y2y3y4y5zAy6y7y8y9x30y1",
  "1449Ey2y3y4y5zAy6y7y8y9x40y1y2y3y4y5y6y7y8y9x50y1y2y3y4y5y6y7y8y9x60y1y2y3y4y5y6y7y8y9x70y1y2",
  "144C8y3y4y5y6y7y8y9x80y1y2y3y4y5y6y7y8y9x90y1y2y3y4y5y6y7y8y9w200y1y2zAzBy3y4y5y6y7zAy8y9zAx10",
  "144F2y1y2y3y4y5zAy6zAy7y8y9x20y1y2y3y4y5y6y7zAy8y9x30y1y2y3y4y5y6y7y8y9x40y1y2y3y4y5y6y7y8y9",
  "1451Cx50y1y2y3y4y5y6y7y8y9x60y1y2y3y4y5y6y7zAy8y9x70y1y2y3y4y5y6y7y8y9x80y1y2y3y4y5y6y7y8y9zA",
  "14546x90y1y2y3y4zAy5y6y7y8y9zAw300y1y2y3y4y5y6y7y8y9zAx10y1y2y3y4y5y6y7y8y9x20y1y2y3y4y5y6y7y8",
  "14570y9zAx30y1y2AzBzCy3y4y5y6zAzBzCy7y8y9x40y1y2y3y4y5y6y7y8y9x50y1y2y3y4y5y6y7y8y9zAx60y1y2y3",
  "1459Ay4zAy5y6y7y8zAy9x70y1zAy2y3y4y5y6y7y8y9x80y1zAy2y3 RA OR RIzAy4y5y6zAy7y8y9x90y1y2",
  "145BDy3 EIGHTy4y5y6y7y8y9w400y1y2y3y4y5y6y7y8y9x10 BEGIN LOGOGRAM MARKzA END LOGOGRAM MARKy1y2",
  "145D2y3y4y5y6y7y8y9x20y1y2y3y4y5y6y7y8y9x30y1y2y3y4y5y6y7y8y9x40y1y2y3y4y5y6y7y8y9x50zAy1y2y3",
  "145FCy4y5y6y7zAy8y9x60y1y2y3y4y5y6y7y8y9x70y1y2y3y4y5y6y7y8y9x80y1y2y3y4y5y6y7y8y9x90y1y2y3y4",
  "14626y5y6y7w501y2y3y4y5y6y7y8y9x10y1y2y3y4y5y6y7y8y9x20y1y2y3y4y5y6y7y8y9x30",
  "16800aBAMUM LETTER PHASE-A NGKUE MFONvGBIEE FONvPON MFON PIPAEMGBIEEzlBAvNAA MFONvSHUENSHUET",
  "16806vTITA MFONvNZA MFONvSHINDA PA NJIvPON PA NJI PIPAEMGBIEEznBAvMAEMBGBIEEvTU MAEMBAvNGANGU",
  "1680EvMAEMVEUXxNSUAEwVEUAENGAMvSEUNYAMvNTOQPENvKEUKEUTNDAvNKINDIvSUUvNGKUENZEUMvLAPAQwET KUT",
  "16819vNTAP MFAAvMAEKEUPvPASHAEvGHEUAERAEvPAMSHAEvMON NGGEUAETvNZUN MEUTvU YUQ NAEvGHEUAEGHEUAE",
  "16822vNTAP NTAAvSISAvMGBASAwEUNJOMNDEUQwOOMPUQvKAFAvPA LEERAEWAvNDA LEERAEWAvPETvMAEMKPENvNIKA",
  "1682DvPUPvTUAEPvLUAEPvSONJAMvTEUTEUWENvMAENYIvKETvNDAANGGEUAETvKUOQvMOOMEUTvSHUMvLOMMAEvFIRI",
  "1683AvROMvKPOQvSOQvMAP PIEETvSHIRAEvNTAPvSHOQ NSHUT YUMvNYIT MONGKEUAEQvPAARAEvNKAARAEvUNKNOWN",
  "16845vNGGENvMAESIvNJAMvMBANYIvNYETvTEUAENvSOTvPAAMvNSHIEEvMAEMvNYIvKAQvNSHAvVEEvLUvNENwAQvMBAQ",
  "16857tB NSHUETvTU MAEMGBIEEvSIEEwET TUvLOM NTEUMvMBA MAELEEvKIEEMvYEURAEvMBAARAEvKAMvPEESHI",
  "16862vYAFU LEERAEWAvLAM NSHUT NYAMvNTIEE SHEUOQwDU NJAAvGHEUGHEUAEMvPITvTU NSIEEvSHET NJAQ",
  "1686AyUAEQTUvMFON TEUAEQwBIT MBAAKETvNYI NTEUMvKEUPUQvGHEUGHENvKEUYEUXvLAANAEvPARUMvVEUM",
  "16874vNGKINDI MVOPxGEU MBUvWUAETvSAKEUAEvTAAMvMEUQvNGGUOQzc LARGEvMFIYAQvSUEvMBEURIwONTIEEN",
  "16880vNYAEMAEvPUNGAAMvMEUT NGGEETvFEUXvMBUOQvFEEvKEUAEMvMA NJEUAENAzbUQAvLETvNGGAAMwSENvMAvKIQ",
  "1688EvNGOMtC NGKUE MAEMBAwZAvYUMvWANGKUOQvNGGENwDEUAEREEwGKAQvGHARAEvMBEEKEETvGBAYI",
  "16899vNYIR MKPARAQ MEUNwTU MBITvMBEUMvPIRIEENvNDOMBUvMBAA CABBAGE-TREEvKEUSHEUAEPvGHAPvKEUKAQ",
  "168A2vYU MUOMAEvNZEUMvMBUEvNSEUAENvMBITvYEUQvKPARAQwAAvSEUXvNDIDAvTAASHAEvNJUEQvTITA YUEvSUAET",
  "168B0vNGGUAEN NYAMvVEUXvNANSANAQvMA KEUAERIvNTAAwGGUONvLAPvMBIRIEENwGBASAQvNTEUNGBAvTEUTEUX",
  "168BBvNGGUMvFUEvNDEUTwSAxHAQvBUNGvVEUAEPENvMBERAEvRUvNJAEMvLAMvTITUAEPvNSUOT NGOMwJEEEEvKET",
  "168CAvNGGUvMAESIwBUAEMvLUvKUTvNJAMwGOMvWUPvNGGUEETwSOMwTENvKUOP NKAARAEvNSUNwDAMvMA NSIEEvYAA",
  "168DAvNDAPvSHUEQwETFONvMBIwAEMBAwBANYIvKEUSEUXvMBEUXvKEUMvMBAA PICKETvYUWOQvNJEUXvMIEEwUAE",
  "168E8vSHIQvKEN LAWzFATIGUEvNGAQwAQvLIQvPINwENvTETtD MBUOvWAPvNJIvMFONvNJIEEvLIEEvNJEUTwSHEE",
  "168F9wGGAAMAEwYAMvWUAENvNGKUNvSHEEvNGKAPvKEUAETMEUNvTEUTvSHEUAEvNJAPvSUEvKETvYAEMMAEvKUOMvSAP",
  "16908vMFEUTvNDEUXvMALEERIwEUTvSEUAEQvYENvNJEUAEMvKEUOT MBUAEvNGKEURIvTUvGHAAvNGKYEEvFEUFEUAET",
  "16915vNDEEvMGBOFUMvLEUAEPvNDONvMONIwGBEUNvPUUTvMGBIEEwFOvLUMvNSIEEPvMBAAvKWAETvNYETvTEUAENvSOT",
  "16925vYUWOQvKEUMvRAEMvTEEEEvNGKEUAEQvMFEUAEvNSIEETvKEUPvPIPwEUTAEvNYUEvLETvNGGAAMvMFIEE",
  "16933vNGGWAENvYUOMvPAPvYUOPvNDAMwTEUMvSUAEvKUNvNGGEUXxKIEEvTUOTvMEUNvKUQvNSUMvTEUNvMAENJET",
  "16943vNGGAPvLEUMvNGGUOMwSHUTwJUEQvGHEUAEvKUvREN OLDvTAEwOQvNYIvRIIvLEEEEvMEEEEvMvSUUvMUvSHII",
  "16955xEUXvKYEEvNUvSHUvNTEEvPEEvNIvSHOQvPUQvMVOPvLOQvREN MUCHvTIvNTUUvMBAA SEVENvSAQvFAAtE NDAP",
  "16967vTOONvMBEUMvLAPvVOMvLOONvPAAvSOMvRAQvNSHUOPwDUNvPUAEvTAMvNGKAvKPEUXvWUOvSEEvNGGEUAETvPAAM",
  "16979vTOOvKUOPvLOMvNSHIEEwGOPvMAEMvNGKEUXxOQwSHUEvRIMGBAvNJEUXvPEEMvSAAvNGGURAEvMGBAvGHEUX",
  "16989vNGKEUAEMwJAEMLIvMAPvLOOTvNGGEEEEwDIQvTAEN NTEUMvSETvPUMvNDAA SOFTNESSwGGUAESHAE NYAM",
  "16994vYIEEvGHEUNvTUAEvYEUAEvPOvTUMAEvKEUAEvSUAENvTEUAEQvVEUAEvWEUXvLAAMvPUvTAAQvGHAAMAE",
  "169A3vNGEUREUTvSHEUAEQvMGBENwBEEvNZAQwKOMvGBETvTUMvKUETvYAPvNYI CLEAVERvYITvMFEUQvNDIAQvPIEEQ",
  "169B2vYUEQvLEUAEMvFUEvGBEUXvNGKUPvKETvMAEvNGKAAMIvGHETvFAvNTUMvPEUTvYEUMvNGGEUAEwYI BETWEEN",
  "169C1wZUQvPOONvMIEEvFUETvNAEvMUAEvGHEUAEvFU IvMVIvPUAQvNGKUMvKUTvPIETvNTAPvYEUAETvNGGUP",
  "169D1vPA PEOPLEvFU CALLwOMvNJEEvAvTOQvOvIvLAQvPA PLURALvTAAxQvNDAA MY HOUSEvSHIQvYEUXvNGUAE",
  "169E1vYUAENwOQ SWIMMINGzCOVERwUQxNvKEUXvPEUXvNJEE EPOCHvPUEvWUEvFEEvVEEvLUvMIvREUXwAEvNGUAETxA",
  "169F3vSHOyQvFU REMEDYvNAvPIvLOQvKOvMENwAxQvTEUvKIvMONvTENvFAQvGHOMtF KAvUvKUvEEvREEvTAEvNYIvLA",
  "16A0BvRIIxEEvMEEEEvTAAvNDAAwJAEMvMvSUUwHIIwIwEUXvKYEEwETvNUAEwUwJUAEvYOQvSHUvYAvNSHAvPEUXvNTEE",
  "16A21vWUEvPEEvRUvNIvREUXvKENvNGKWAENxGAvSHOvPUAEvFOMvWAvLIwOQvKOvMBENvRENvMAwOwBAAvTETvKPA",
  "16A37vSAMBAvVUEQ",
  "16A40aMRO LETTER TAlNGIlYOlMIMlBAlDAlAlPHIlKHAIlHAOlDAIlCHUlKEAAElOLlMAEMlNINlPAlOOlOlROlSHI",
  "16A55lTHEAlEAlWAlElKOlLANmAlHAIlRIlTEK",
  "16A60eDIGIT ZEROkONEkTWOlHREEkFOURlIVEkSIXlEVENkEIGHTkNINE",
  "16A6EfANDAfOUBLE DANDAaTANGSA LETTER OZpCpQpXoAZpCpQpXoVZpCpQpXoEZpCpQpXoIZpCpQpXoUZpCpQpXoAWZ",
  "16A89qCqQqXoUIZqCqQqXoFINAL NGoLONG UEXoSHORT UEZuAWXoUECqZqQqXpIUZrCrQrXoMZpCpQpXoKApHAoGA",
  "16AA3oNGAoSAoYAoWAoPAoNYAoPHAoBAoMAoNAoHAoLAoHTAoTAoDAoRAoNHAoSHAoCAoTSAoGHAoHTTAoTHAoXAoFA",
  "16ABCoDHAoCHAoZA",
  "16AC0hDIGIT ZEROnONEnTWOoHREEnFOURoIVEnSIXoEVENnEIGHTnNINE",
  "16AD0aBASSA VAH LETTER ENNIrKArSErFArMBErYIErGAHrDHIIrKPAHrJOrHWAHrWArZOrGBUrDOrCErUWUrTOrBA",
  "16AE3rVUrYEINrPArWADDArArOsOrUrEErErI",
  "16AF0kCOMBINING HIGH TONEuLOW TONEuMID TONEuLOW-MID TONEuHIGH-LOW TONEkFULL STOP",
  "16B00aPAHAWH HMONG VOWEL KEEBwVuIBvVuAUBwVuUBvVuEBvVuAIBwVuOOBwVuAWBwVuUABwVuOBvVuIABwVuABvV",
  "16B18uWBvVuAABwVnCONSONANT VAUxNTSAUxLAUxHAUxNLAUxRAUxNKAUxQHAUxYAUxHLAUxMAUxCHAUxNCHAUxHNAU",
  "16B2AxPLHAUxNTHAUyAUxAUxXAUxCAUnMARK CIM TUBwSOwKESxHAVwSUAMwHOMwTAUMnSIGN VOS THOMxSHAB CEEB",
  "16B39sCIM CHEEMsVOS THIABwFEEMsXYEEM NTXIVyRHOyTOVyFAIBsVOS SEEVsMEEJ SUABsVOS NRUAsIB YAM",
  "16B44sXAUSsCIM TSOV ROG",
  "16B50nDIGIT ZEROtONEtTWOuHREEtFOURuIVEtSIXuEVENtEIGHTtNINE",
  "16B5BnNUMBER TENSuHUNDREDSuTEN THOUSANDSuMILLIONSuHUNDRED MILLIONSuTEN BILLIONSvRILLIONS",
  "16B63nSIGN VOS LUBsXYOOsHLIsTHIRD-STAGE HLIsZWJ THAJsHNUBsNQIGsXIABsNTUJsAVsTXHEEJ CEEV",
  "16B6EsMEEJ TSEEBsTAUsLOSsMUSsCIM HAIS LUS NTOG NTOGwCUAM TSHOOJwTXWVzb CHWVwPUB DAWBwNRES TOS",
  "16B7DnCLAN SIGN TSHEEJxYEEGxLISyAUJxXYOOJxKOOxHAWJxMUASxTHOJySABxPHABxKHABxHAMxVAJxFAJxYAJ",
  "16B8DxTSWBxKWMxVWJ",
  "16E40aMEDEFAIDRIN CAPITAL LETTER MzcSzcVzcWzcATIUzcZzcKPzcPzcTzcGzcFzcIzcKzcAzcJzcEzcBzcCzcU",
  "16E53zcYUzcLzcQzcHPzcNYzcXzcDzcOEzcNzcRzcOzcAIzcYmSMALL LETTER MzSzVzWzATIUzZzKPzPzTzGzFzIzKzA",
  "16E6EzJzEzBzCzUzYUzLzQzHPzNYzXzDzOEzNzRzOzAIzYmDIGIT ZEROsONEsTWOtHREEsFOURtIVEsSIXtEVENsEIGHT",
  "16E89sNINEmNUMBER TENtELEVENtTWELVEuHIRTEENtFOURTEENuIFTEENtSIXTEENuEVENTEENtEIGHTEENtNINETEEN",
  "16E94mDIGIT ONE ALTERNATE FORMsTWO ALTERNATE FORMtHREE ALTERNATE FORMmCOMMAmFULL STOP",
  "16E99mSYMBOL AIVAmEXCLAMATION OH",
  "16F00bIAO LETTER PAmBAmYI PAmPLAmMAnHAmARCHAIC MAmFAmVAnFAmTAmDAmYI TTAqAmTTAmDDAmNAnHAmYI NNA",
  "16F13mARCHAIC NAmNNAoHAmLAnYAnHAoYAmTLHAmDLHAmTLHYAmDLHYAmKAmGAmYI KAmQAnGAmNGAoHAmARCHAIC NGA",
  "16F26mHAmXAmGHAoHAmTSSAmDZZAmNYAoHAmTSHAmDZHAmYI TSHApDZHAmREFORMED TSHAmSHAnSAmZHAnSHAmTSA",
  "16F38mDZAmYI TSAmSAmZAnSAnZAoSAmARCHAIC ZZAmZZYAoSYAmWAmAHmHHAmBRImSYImDZYImTEnSEmRTE",
  "16F4FfSIGN CONSONANT MODIFIER BARfLETTER NASALIZATIONfSIGN ASPIRATIONkREFORMED VOICING",
  "16F53tASPIRATIONfVOWEL SIGN ArArHHrNsGqOrOqWOqWqErNsGqOEYqIrAsNtGrOrErIrUrNGqUrAsNtGrUrEIrNGqY",
  "16F72rIqAEsEqERRqROUNDED ERRqERqROUNDED ERqAIqEIqAUqOUqNrGqUOGqYUIqOGrERqVWqIGqEAqIONGqUI",
  "16F8FfTONE RIGHTkTOP RIGHTkABOVEkBELOWfLETTER TONE-2r3r4r5r6r7r8mREFORMED TONE-1zb2zb4zb5zb6",
  "16F9Fzb8",
  "16FE0aTANGUT ITERATION MARKaNUSHU ITERATION MARKaOLD CHINESE HOOK MARKmITERATION MARK",
  "16FE4aKHITAN SMALL SCRIPT FILLER",
  "16FF0aVIETNAMESE ALTERNATE READING MARK CAzjNHAY",
  "18800aTANGUT COMPONENT-001t2t3t4t5t6t7t8t9s10t1t2t3t4t5t6t7t8t9s20t1t2t3t4t5t6t7t8t9s30t1t2t3",
  "18821t4t5t6t7t8t9s40t1t2t3t4t5t6t7t8t9s50t1t2t3t4t5t6t7t8t9s60t1t2t3t4t5t6t7t8t9s70t1t2t3t4t5",
  "1884Bt6t7t8t9s80t1t2t3t4t5t6t7t8t9s90t1t2t3t4t5t6t7t8t9r100t1t2t3t4t5t6t7t8t9s10t1t2t3t4t5t6t7",
  "18875t8t9s20t1t2t3t4t5t6t7t8t9s30t1t2t3t4t5t6t7t8t9s40t1t2t3t4t5t6t7t8t9s50t1t2t3t4t5t6t7t8t9",
  "1889Fs60t1t2t3t4t5t6t7t8t9s70t1t2t3t4t5t6t7t8t9s80t1t2t3t4t5t6t7t8t9s90t1t2t3t4t5t6t7t8t9r200",
  "188C8t1t2t3t4t5t6t7t8t9s10t1t2t3t4t5t6t7t8t9s20t1t2t3t4t5t6t7t8t9s30t1t2t3t4t5t6t7t8t9s40t1t2",
  "188F2t3t4t5t6t7t8t9s50t1t2t3t4t5t6t7t8t9s60t1t2t3t4t5t6t7t8t9s70t1t2t3t4t5t6t7t8t9s80t1t2t3t4",
  "1891Ct5t6t7t8t9s90t1t2t3t4t5t6t7t8t9r300t1t2t3t4t5t6t7t8t9s10t1t2t3t4t5t6t7t8t9s20t1t2t3t4t5t6",
  "18946t7t8t9s30t1t2t3t4t5t6t7t8t9s40t1t2t3t4t5t6t7t8t9s50t1t2t3t4t5t6t7t8t9s60t1t2t3t4t5t6t7t8",
  "18970t9s70t1t2t3t4t5t6t7t8t9s80t1t2t3t4t5t6t7t8t9s90t1t2t3t4t5t6t7t8t9r400t1t2t3t4t5t6t7t8t9",
  "18999s10t1t2t3t4t5t6t7t8t9s20t1t2t3t4t5t6t7t8t9s30t1t2t3t4t5t6t7t8t9s40t1t2t3t4t5t6t7t8t9s50t1",
  "189C3t2t3t4t5t6t7t8t9s60t1t2t3t4t5t6t7t8t9s70t1t2t3t4t5t6t7t8t9s80t1t2t3t4t5t6t7t8t9s90t1t2t3",
  "189EDt4t5t6t7t8t9r500t1t2t3t4t5t6t7t8t9s10t1t2t3t4t5t6t7t8t9s20t1t2t3t4t5t6t7t8t9s30t1t2t3t4t5",
  "18A17t6t7t8t9s40t1t2t3t4t5t6t7t8t9s50t1t2t3t4t5t6t7t8t9s60t1t2t3t4t5t6t7t8t9s70t1t2t3t4t5t6t7",
  "18A41t8t9s80t1t2t3t4t5t6t7t8t9s90t1t2t3t4t5t6t7t8t9r600t1t2t3t4t5t6t7t8t9s10t1t2t3t4t5t6t7t8t9",
  "18A6Bs20t1t2t3t4t5t6t7t8t9s30t1t2t3t4t5t6t7t8t9s40t1t2t3t4t5t6t7t8t9s50t1t2t3t4t5t6t7t8t9s60t1",
  "18A95t2t3t4t5t6t7t8t9s70t1t2t3t4t5t6t7t8t9s80t1t2t3t4t5t6t7t8t9s90t1t2t3t4t5t6t7t8t9r700t1t2t3",
  "18ABFt4t5t6t7t8t9s10t1t2t3t4t5t6t7t8t9s20t1t2t3t4t5t6t7t8t9s30t1t2t3t4t5t6t7t8t9s40t1t2t3t4t5",
  "18AE9t6t7t8t9s50t1t2t3t4t5t6t7t8t9s60t1t2t3t4t5t6t7t8",
  "1AFF0aKATAKANA LETTER MINNAN TONE-2zd3zd4zd5",
  "1AFF5zd7zd8xNASALIZED TONE-1zn2zn3zn4zn5",
  "1AFFDzn7zn8",
  "1B000qARCHAIC EaHIRAGANA LETTER ARCHAIC YEbENTAIGANA LETTER A-1u2u3uWOsI-1u2u3u4sU-1u2u3u4u5",
  "1B00FsE-2u3u4u5u6sO-1u2u3sKA-1v2v3v4v5v6v7v8v9v10w1vKEtI-1v2v3v4v5v6v7v8tU-1v2v3v4v5v6v7tE-1v2",
  "1B034v3v4v5v6tO-1v2v3vKIsSA-1v2v3v4v5v6v7v8tI-1v2v3v4v5v6tU-1v2v3v4v5v6v7v8tE-1v2v3v4v5tO-1v2",
  "1B059v3v4v5v6v7sTA-1v2v3v4tI-1v2v3v4v5v6v7tU-1v2v3v4vTOtE-1v2v3v4v5v6v7v8v9tO-1v2v3v4v5v6vRA",
  "1B07EsNA-1v2v3v4v5v6v7v8v9tI-1v2v3v4v5v6v7vTEtU-1v2v3tE-1v2v3v4v5v6vKOtO-1v2v3v4v5sHA-1v2v3v4",
  "1B0A2v5v6v7v8v9v10w1tI-1v2v3v4v5v6v7tU-1v2v3tE-1v2v3v4v5v6v7tO-1v2v3v4v5v6v7v8sMA-1v2v3v4v5v6",
  "1B0C8v7tI-1v2v3v4v5v6v7tU-1v2v3v4tE-1v2vMAtO-1v2v3v4v5v6sYA-1v2v3v4v5vYOtU-1v2v3v4tO-1v2v3v4v5",
  "1B0ECv6sRA-1v2v3v4tI-1v2v3v4v5v6v7tU-1v2v3v4v5v6tE-1v2v3v4tO-1v2v3v4v5v6sWA-1v2v3v4v5tI-1v2v3",
  "1B110v4v5tE-1v2v3v4tO-1v2v3v4v5v6v7sN-MU-MO-1zb2bIRAGANA LETTER ARCHAIC WU",
  "1B120aKATAKANA LETTER ARCHAIC YIzEyWU",
  "1B150aHIRAGANA LETTER SMALL WIxExO",
  "1B164aKATAKANA LETTER SMALL WIxExOwN",
  "1BC00aDUPLOYAN LETTER HqXqPqTqFqKqLqBqDqVqGqRqP NqD SqF NqK MqR SqTHqSLOAN DHqDHqKKqSLOAN JqHL",
  "1BC17qLHqRHqMqNqJqSqM NqN MqJ MqS JqM WITH DOTqN WITH DOTqJ WITH DOTzbS INSIDE AND ABOVE",
  "1BC25qS WITH DOTzb BELOWqM SqN SqJ SqS SqM N SqN M SqJ M SqS J SqJ S WITH DOTsNt SqS Tt RsPt R",
  "1BC36qT SsR SqWrHr RqS NsMqK R SqG R SqS Kt RqAqSLOAN OWqOAqOqAOUqIqEqIEqSHORT IqUIqEE",
  "1BC4CqSLOAN EHqROMANIAN IqSLOAN EEqLONG IqYEqUqEUqXWqU NqLONG UqROMANIAN UqUHqSLOAN UqOOHrWrU",
  "1BC5CqWArOrIrEIrOWqNASAL UwOwIwAqPERNIN ANyMqSLOAN ENwANwONqVOCALIC M",
  "1BC70jAFFIX LEFT HORIZONTAL SECANTpMID HORIZONTAL SECANTpRIGHT HORIZONTAL SECANT",
  "1BC73pLOW VERTICAL SECANTpMID VERTICAL SECANTpHIGH VERTICAL SECANTpATTACHED SECANT",
  "1BC77yLEFT-TO-RIGHT SECANTyTANGENTzbILyE HOOKyI HOOKyTANGENT HOOK",
  "1BC80pHIGH ACUTEuTIGHT ACUTEuGRAVEuLONG GRAVEuDOTuCIRCLEuLINEuWAVEuVERTICAL",
  "1BC90pLOW ACUTEtTIGHT ACUTEtGRAVEtLONG GRAVEtDOTtCIRCLEtLINEtWAVEtVERTICALtARROW",
  "1BC9CjSIGN O WITH CROSSjTHICK LETTER SELECTORjDOUBLE MARKjPUNCTUATION CHINOOK FULL STOP",
  "1BCA0aSHORTHAND FORMAT LETTER OVERLAPrCONTINUING OVERLAPrDOWN STEPrUP STEP",
  "1CF00aZNAMENNY COMBINING MARK GORAZDO NIZKO S KRYZHEM ON LEFTyNIZKO S KRYZHEM ON LEFT",
  "1CF02yTSATA ON LEFTyGORAZDO NIZKO ON LEFTyNIZKO ON LEFTySREDNE ON LEFTyMALO POVYSHE ON LEFT",
  "1CF07yPOVYSHE ON LEFTyVYSOKO ON LEFTyMALO POVYSHE S KHOKHLOM ON LEFT",
  "1CF0AyPOVYSHE S KHOKHLOM ON LEFTyVYSOKO S KHOKHLOM ON LEFTyGORAZDO NIZKO S KRYZHEM ON RIGHT",
  "1CF0DyNIZKO S KRYZHEM ON RIGHTyTSATA ON RIGHTyGORAZDO NIZKO ON RIGHTyNIZKO ON RIGHT",
  "1CF11ySREDNE ON RIGHTyMALO POVYSHE ON RIGHTyPOVYSHE ON RIGHTyVYSOKO ON RIGHT",
  "1CF15yMALO POVYSHE S KHOKHLOM ON RIGHTyPOVYSHE S KHOKHLOM ON RIGHTyVYSOKO S KHOKHLOM ON RIGHT",
  "1CF18yTSATA S KRYZHEMyMALO POVYSHE S KRYZHEMySTRANNO MALO POVYSHEyPOVYSHE S KRYZHEMziTRANNO",
  "1CF1DyVYSOKO S KRYZHEMyMALO POVYSHE STRANNOyGORAZDO VYSOKOyZELOyONyRAVNOyTIKHAYAyBORZAYA",
  "1CF25yUDARKAyPODVERTKAyLOMKAyKUPNAYAzACHKAyZEVOKySKOBAyRAZSEKAyKRYZH ON LEFT",
  "1CF30tTONAL RANGE MARK MRACHNOzlSVETLOzlTRESVETLOtMARK ZADERZHKAyDEMESTVENNY ZADERZHKA",
  "1CF35yOTSECHKAyPODCHASHIEzj WITH VERTICAL STROKEyCHASHKAzg POLNAYAyOBLACHKOySOROCHYA NOZHKA",
  "1CF3CyTOCHKAyDVOETOCHIEtATTACHING VERTICAL OMETtMARK CURVED OMETyKRYZH",
  "1CF41tLOWER TONAL RANGE INDICATORjPRIZNAK MODIFIER LEVEL-2zh3zbDIRECTION FLIPzbKRYZHzbROG",
  "1CF50jNEUME KRYUKu TIKHYpPARAKLITpDVA V CHELNUpKLYUCHpZANOZHEKpSTOPITSAx S OCHKOMpPEREVODKA",
  "1CF59y NEPOSTOYANNAYApSTOPITSA WITH SOROCHYA NOZHKApCHELYUSTKApPALKApZAPYATAYApGOLUBCHIK BORZY",
  "1CF5FzTIKHYzMRACHNYzSVETLYzTRESVETLYpVRAKHIYA PROSTAYAyMRACHNAYAySVETLAYAyTRESVETLAYA",
  "1CF67yKLYUCHEVAYA PROSTAYAzlMRACHNAYAzlSVETLAYAzlTRESVETLAYApDOUBLE ZAPYATAYA",
  "1CF6CpREVERSED CHELYUSTKApDERBITSApKHAMILOpCHASHKApPODCHASHIEpSKAMEYTSA MRACHNAYAzSVETLAYA",
  "1CF73zTRESVETLAYAzbIKHAYApDEMESTVENNY KLYUCHpSKAMEYTSA KLYUCHEVAYA SVETLAYAzhNEPOSTOYANNAYA",
  "1CF78zhVAYA TIKHAYAzDVOECHELNAYA PROSTAYAznSVETLAYAznNEPOSTOYANNAYAznKLYUCHEVAYAqLOZHITIE",
  "1CF7Ey S ZAPYATOYzZAKRYTOEzS KRYZHEMpKRYZHpROGpFITApKOBYLApZMEYTSApSTATYAv S ZAPYATOYyKRYZHEM",
  "1CF89yZAPYATOY I KRYZHEMyKRYZHEM I ZAPYATOYwZAKRYTAYAzg S ZAPYATOYwS ROGOMyDVUMYA ZAPYATYMI",
  "1CF8FyZAPYATOY I PODCHASHIEMpPOLKULIZMYpSTATYA NEPOSTOYANNAYArRELA PROSTAYAwMRACHNOTIKHAYA",
  "1CF94wKRYZHEVAYAwPOLUPOVODNAYAyVODNAYAwNEPOSTOYANNAYAwKLYUCHEPOVODNAYAzeNEPOSTOYANNAYA",
  "1CF9AwTIKHAYA PUTNAYAwDVOECHELNAYAzgOKRYZHEVAYAzhPOVODNAYAzgAYA KLYUCHEVAYA",
  "1CF9FzgOPOVODNAYA KLYUCHEVAYAwGROMNAYA WITH SINGLE ZAPYATAYAzbOPOVODNAYA WITH SINGLE ZAPYATAYA",
  "1CFA2zbNAYAzbOPOVODNAYAzl WITH DOUBLE ZAPYATAYAzcKRYZHEVAYAzm POVODNAYApMECHIKv POVODNY",
  "1CFA9wKLYUCHEVOYzePOVODNYzeNEPOSTOYANNYpSTRELA TRYASOGLASNAYAzdPOVODNAYAzdSTRELNAYApOSOKA",
  "1CFB0u SVETLAYAvTRESVETLAYAvKRYUKOVAYA SVETLAYAwLYUCHEVAYA SVETLAYAziNEPOSTOYANNAYA",
  "1CFB5pSTRELA KRYUKOVAYAzh POVODNAYAziGROMNAYA WITH SINGLE ZAPYATAYA",
  "1CFB8zmOPOVODNAYA WITH SINGLE ZAPYATAYAzmNAYAzmOPOVODNAYAzw WITH DOUBLE ZAPYATAYAznKRYZHEVAYA",
  "1CFBDzx POVODNAYAziTRYASKApKUFISMApOBLAKOpDUDApNEMKApPAUK"]

end ModuleBridge.Text
