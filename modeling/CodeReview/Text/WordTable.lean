import CodeReview.Text.Ranges

/-!
Letters, marks of number and digits outside ASCII.
-/

namespace CodeReview.Text

/-- Letters outside ASCII that may not start an identifier. -/
def innerLetterTable : Ranges := .ofLengths 0 (numberRows
  ".EM1.iG1.231,025z1,0DjK6.6Y2.1s111111111111111.4d2")

/-- Code points above 127 that may start an identifier and are neither letters nor numbers. -/
def startingMarkTable : Ranges := .ofLengths 0 (numberRows
  ",01dF2.ZN1L1")

/-- Code points above 127 that are decimal digits; each range holds whole runs of ten. -/
def digitTable : Ranges := .ofLengths 128 (numberRows
  ".OGA.2AA.3CA.6eA.1uA.1uA.1uA.1uA.1uA.1uA.1uA.1uA.1uA.1YA.1uA.18A.4UA.18A.U2AcA.4qA.24A.2gA6A
.2wA.1OA.2AA6A,09AsA.AwAcA.3CAMA.1OA.6YA,05X4A.MoA.ZCA.D6A.24AyA.2KA.4UA.5WA.1uA.62A.1eA.1eA
.6oA.1eA.CEA.3yA.18A,056kA.1OA.2AA,07Doo.cCA.6oA.QAA,01EkA")

/-- Code points above 127 that are numbers. -/
def numberTable : Ranges := .ofLengths 128 (numberRows
  "o25123.NFA.2AA.3CA.6eA.1uA46.1kA.1uA.1uA26.1mD.1rA87.1fA.1g77J.1lA.1YA.1uA.18K.4KA.18A.BbK.ED3
.3rA6AMA.4qA.24B.2fA6A.2wA.1OA.2AA6A.Gs1366A.3Cp25.Biy.1GM.AAU.ML1.CX1P9E3.5X4.2EAU81FWAdF
,07gOA.32A.5A6.2UAcA.3CAMA.1OA.6YA,05X4A.7xjCvH2.5VRa4T181.2A5.3GA.FC8P7d9.1D5M6.2a22G2k.129q2
U3.1D5.1g8O8f7.5K6mA.4kV.2YAg4.1o7.2AU.24AyA.2KA7K.43A.5WA.1uA.62A.1eA.1eC.6mJ.1VA.CET.3fA.18A
.8cL.HD.1n,04enA.1OA.2AA17.CsN,06g5K.1kP.Hto.cCA.6oA.Nx9.24A.Clx1314.1Ej1F.FWD.ixA")

end CodeReview.Text
