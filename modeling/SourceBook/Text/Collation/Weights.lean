import SourceBook.Text.Basic

namespace SourceBook.Text.Collation

/-- The three weights of one collation step: letter, accent, case. Zero at a level means that the step
does not count there. -/
structure Weight where
  primary : Nat
  secondary : Nat
  tertiary : Nat
  deriving DecidableEq, Repr

/-- `count` characters, `step` apart from `first` on. Their primary weights rise by `slope` from
`primary`, the other two are the same for all. -/
structure WeightRun where
  first : Nat
  step : Nat
  count : Nat
  primary : Nat
  slope : Nat
  secondary : Nat
  tertiary : Nat

def WeightRun.weight? (run : WeightRun) (n : Nat) : Option Weight :=
  let k := (n - run.first) / run.step
  if run.first ≤ n ∧ k < run.count ∧ (n - run.first) % run.step = 0 then
    some ⟨run.primary + k * run.slope, run.secondary, run.tertiary⟩
  else none

def latinRuns : List WeightRun :=
  [⟨0x0, 1, 9, 0, 0, 0, 0⟩, ⟨0x9, 1, 5, 513, 1, 32, 2⟩, ⟨0xE, 1, 18, 0, 0, 0, 0⟩,
   ⟨0x20, 1, 1, 521, 0, 32, 2⟩, ⟨0x21, 1, 1, 615, 0, 32, 2⟩, ⟨0x22, 1, 1, 797, 0, 32, 2⟩,
   ⟨0x23, 1, 1, 940, 0, 32, 2⟩, ⟨0x24, 1, 1, 8036, 0, 32, 2⟩, ⟨0x25, 1, 1, 941, 0, 32, 2⟩,
   ⟨0x26, 1, 1, 937, 0, 32, 2⟩, ⟨0x27, 1, 1, 790, 0, 32, 2⟩, ⟨0x28, 1, 2, 808, 1, 32, 2⟩,
   ⟨0x2A, 1, 1, 929, 0, 32, 2⟩, ⟨0x2B, 1, 1, 1638, 0, 32, 2⟩, ⟨0x2C, 1, 1, 547, 0, 32, 2⟩,
   ⟨0x2D, 1, 1, 525, 0, 32, 2⟩, ⟨0x2E, 1, 1, 638, 0, 32, 2⟩, ⟨0x2F, 1, 1, 934, 0, 32, 2⟩,
   ⟨0x30, 1, 10, 8088, 1, 32, 2⟩, ⟨0x3A, 1, 1, 576, 0, 32, 2⟩, ⟨0x3B, 1, 1, 570, 0, 32, 2⟩,
   ⟨0x3C, 1, 3, 1642, 1, 32, 2⟩, ⟨0x3F, 1, 1, 621, 0, 32, 2⟩, ⟨0x40, 1, 1, 928, 0, 32, 2⟩,
   ⟨0x41, 1, 1, 8098, 0, 32, 8⟩, ⟨0x42, 1, 1, 8124, 0, 32, 8⟩, ⟨0x43, 1, 1, 8150, 0, 32, 8⟩,
   ⟨0x44, 1, 1, 8171, 0, 32, 8⟩, ⟨0x45, 1, 1, 8199, 0, 32, 8⟩, ⟨0x46, 1, 1, 8258, 0, 32, 8⟩,
   ⟨0x47, 1, 1, 8273, 0, 32, 8⟩, ⟨0x48, 1, 1, 8309, 0, 32, 8⟩, ⟨0x49, 1, 1, 8336, 0, 32, 8⟩,
   ⟨0x4A, 1, 1, 8363, 0, 32, 8⟩, ⟨0x4B, 1, 1, 8388, 0, 32, 8⟩, ⟨0x4C, 1, 1, 8406, 0, 32, 8⟩,
   ⟨0x4D, 1, 1, 8457, 0, 32, 8⟩, ⟨0x4E, 1, 1, 8472, 0, 32, 8⟩, ⟨0x4F, 1, 1, 8508, 0, 32, 8⟩,
   ⟨0x50, 1, 1, 8555, 0, 32, 8⟩, ⟨0x51, 1, 1, 8576, 0, 32, 8⟩, ⟨0x52, 1, 1, 8595, 0, 32, 8⟩,
   ⟨0x53, 1, 1, 8658, 0, 32, 8⟩, ⟨0x54, 1, 1, 8695, 0, 32, 8⟩, ⟨0x55, 1, 1, 8727, 0, 32, 8⟩,
   ⟨0x56, 1, 1, 8775, 0, 32, 8⟩, ⟨0x57, 1, 1, 8793, 0, 32, 8⟩, ⟨0x58, 1, 1, 8804, 0, 32, 8⟩,
   ⟨0x59, 1, 1, 8816, 0, 32, 8⟩, ⟨0x5A, 1, 1, 8838, 0, 32, 8⟩, ⟨0x5B, 1, 1, 810, 0, 32, 2⟩,
   ⟨0x5C, 1, 1, 935, 0, 32, 2⟩, ⟨0x5D, 1, 1, 811, 0, 32, 2⟩, ⟨0x5E, 1, 1, 1207, 0, 32, 2⟩,
   ⟨0x5F, 1, 1, 523, 0, 32, 2⟩, ⟨0x60, 1, 1, 1204, 0, 32, 2⟩, ⟨0x61, 1, 1, 8098, 0, 32, 2⟩,
   ⟨0x62, 1, 1, 8124, 0, 32, 2⟩, ⟨0x63, 1, 1, 8150, 0, 32, 2⟩, ⟨0x64, 1, 1, 8171, 0, 32, 2⟩,
   ⟨0x65, 1, 1, 8199, 0, 32, 2⟩, ⟨0x66, 1, 1, 8258, 0, 32, 2⟩, ⟨0x67, 1, 1, 8273, 0, 32, 2⟩,
   ⟨0x68, 1, 1, 8309, 0, 32, 2⟩, ⟨0x69, 1, 1, 8336, 0, 32, 2⟩, ⟨0x6A, 1, 1, 8363, 0, 32, 2⟩,
   ⟨0x6B, 1, 1, 8388, 0, 32, 2⟩, ⟨0x6C, 1, 1, 8406, 0, 32, 2⟩, ⟨0x6D, 1, 1, 8457, 0, 32, 2⟩,
   ⟨0x6E, 1, 1, 8472, 0, 32, 2⟩, ⟨0x6F, 1, 1, 8508, 0, 32, 2⟩, ⟨0x70, 1, 1, 8555, 0, 32, 2⟩,
   ⟨0x71, 1, 1, 8576, 0, 32, 2⟩, ⟨0x72, 1, 1, 8595, 0, 32, 2⟩, ⟨0x73, 1, 1, 8658, 0, 32, 2⟩,
   ⟨0x74, 1, 1, 8695, 0, 32, 2⟩, ⟨0x75, 1, 1, 8727, 0, 32, 2⟩, ⟨0x76, 1, 1, 8775, 0, 32, 2⟩,
   ⟨0x77, 1, 1, 8793, 0, 32, 2⟩, ⟨0x78, 1, 1, 8804, 0, 32, 2⟩, ⟨0x79, 1, 1, 8816, 0, 32, 2⟩,
   ⟨0x7A, 1, 1, 8838, 0, 32, 2⟩, ⟨0x7B, 1, 1, 812, 0, 32, 2⟩, ⟨0x7C, 1, 1, 1646, 0, 32, 2⟩,
   ⟨0x7D, 1, 1, 813, 0, 32, 2⟩, ⟨0x7E, 1, 1, 1648, 0, 32, 2⟩, ⟨0x7F, 1, 6, 0, 0, 0, 0⟩,
   ⟨0x85, 1, 1, 518, 0, 32, 2⟩, ⟨0x86, 1, 26, 0, 0, 0, 0⟩, ⟨0xA0, 1, 1, 521, 0, 32, 27⟩,
   ⟨0xA1, 1, 1, 616, 0, 32, 2⟩, ⟨0xA2, 1, 2, 8035, 2, 32, 2⟩, ⟨0xA4, 1, 1, 8034, 0, 32, 2⟩,
   ⟨0xA5, 1, 1, 8038, 0, 32, 2⟩, ⟨0xA6, 1, 1, 1647, 0, 32, 2⟩, ⟨0xA7, 1, 1, 922, 0, 32, 2⟩,
   ⟨0xA8, 1, 1, 1211, 0, 32, 2⟩, ⟨0xA9, 1, 1, 1490, 0, 32, 2⟩, ⟨0xAA, 1, 1, 8098, 0, 32, 20⟩,
   ⟨0xAB, 1, 1, 806, 0, 32, 2⟩, ⟨0xAC, 1, 1, 1645, 0, 32, 2⟩, ⟨0xAD, 1, 1, 0, 0, 0, 0⟩,
   ⟨0xAE, 1, 1, 1492, 0, 32, 2⟩, ⟨0xAF, 1, 1, 1208, 0, 32, 2⟩, ⟨0xB0, 1, 1, 1322, 0, 32, 2⟩,
   ⟨0xB1, 1, 1, 1639, 0, 32, 2⟩, ⟨0xB2, 1, 2, 8090, 1, 32, 20⟩, ⟨0xB4, 1, 1, 1205, 0, 32, 2⟩,
   ⟨0xB5, 1, 1, 9008, 0, 32, 4⟩, ⟨0xB6, 1, 1, 924, 0, 32, 2⟩, ⟨0xB7, 1, 1, 659, 0, 32, 2⟩,
   ⟨0xB8, 1, 1, 1214, 0, 32, 2⟩, ⟨0xB9, 1, 1, 8089, 0, 32, 20⟩, ⟨0xBA, 1, 1, 8508, 0, 32, 20⟩,
   ⟨0xBB, 1, 1, 807, 0, 32, 2⟩, ⟨0xBF, 1, 1, 622, 0, 32, 2⟩, ⟨0xD7, 1, 1, 1641, 0, 32, 2⟩,
   ⟨0xDE, 1, 1, 8885, 0, 32, 8⟩, ⟨0xF7, 1, 1, 1640, 0, 32, 2⟩, ⟨0xFE, 1, 1, 8885, 0, 32, 2⟩,
   ⟨0x131, 1, 1, 8340, 0, 32, 2⟩, ⟨0x138, 1, 1, 8591, 0, 32, 2⟩, ⟨0x14A, 1, 1, 8503, 0, 32, 8⟩,
   ⟨0x14B, 1, 1, 8503, 0, 32, 2⟩, ⟨0x166, 1, 1, 8700, 0, 32, 8⟩, ⟨0x167, 1, 1, 8700, 0, 32, 2⟩,
   ⟨0x180, 1, 1, 8132, 0, 32, 2⟩, ⟨0x181, 1, 1, 8141, 0, 32, 8⟩, ⟨0x182, 1, 1, 8145, 0, 32, 8⟩,
   ⟨0x183, 1, 1, 8145, 0, 32, 2⟩, ⟨0x184, 1, 1, 8918, 0, 32, 8⟩, ⟨0x185, 1, 1, 8918, 0, 32, 2⟩,
   ⟨0x186, 1, 1, 8527, 0, 32, 8⟩, ⟨0x187, 1, 1, 8161, 0, 32, 8⟩, ⟨0x188, 1, 1, 8161, 0, 32, 2⟩,
   ⟨0x189, 1, 1, 8180, 0, 32, 8⟩, ⟨0x18A, 1, 1, 8184, 0, 32, 8⟩, ⟨0x18B, 1, 1, 8189, 0, 32, 8⟩,
   ⟨0x18C, 1, 1, 8189, 0, 32, 2⟩, ⟨0x18E, 1, 1, 8213, 0, 32, 8⟩, ⟨0x18F, 1, 1, 8218, 0, 32, 8⟩,
   ⟨0x190, 1, 1, 8223, 0, 32, 8⟩, ⟨0x191, 1, 1, 8267, 0, 32, 8⟩, ⟨0x192, 1, 1, 8267, 0, 32, 2⟩,
   ⟨0x193, 1, 1, 8291, 0, 32, 8⟩, ⟨0x194, 1, 1, 8301, 0, 32, 8⟩, ⟨0x195, 1, 1, 8317, 0, 32, 2⟩,
   ⟨0x196, 1, 1, 8358, 0, 32, 8⟩, ⟨0x197, 1, 1, 8351, 0, 32, 8⟩, ⟨0x198, 1, 1, 8394, 0, 32, 8⟩,
   ⟨0x199, 1, 1, 8394, 0, 32, 2⟩, ⟨0x19A, 1, 1, 8417, 0, 32, 2⟩, ⟨0x19B, 1, 1, 8449, 0, 32, 2⟩,
   ⟨0x19C, 1, 1, 8760, 0, 32, 8⟩, ⟨0x19D, 1, 1, 8483, 0, 32, 8⟩, ⟨0x19E, 1, 1, 8487, 0, 32, 2⟩,
   ⟨0x19F, 1, 1, 8540, 0, 32, 8⟩, ⟨0x1A2, 1, 1, 8305, 0, 32, 8⟩, ⟨0x1A3, 1, 1, 8305, 0, 32, 2⟩,
   ⟨0x1A4, 1, 1, 8564, 0, 32, 8⟩, ⟨0x1A5, 1, 1, 8564, 0, 32, 2⟩, ⟨0x1A6, 1, 1, 8600, 0, 32, 8⟩,
   ⟨0x1A7, 1, 1, 8910, 0, 32, 8⟩, ⟨0x1A8, 1, 1, 8910, 0, 32, 2⟩, ⟨0x1A9, 1, 1, 8676, 0, 32, 8⟩,
   ⟨0x1AA, 1, 1, 8682, 0, 32, 2⟩, ⟨0x1AB, 1, 1, 8706, 0, 32, 2⟩, ⟨0x1AC, 1, 1, 8710, 0, 32, 8⟩,
   ⟨0x1AD, 1, 1, 8710, 0, 32, 2⟩, ⟨0x1AE, 1, 1, 8714, 0, 32, 8⟩, ⟨0x1B1, 1, 1, 8770, 0, 32, 8⟩,
   ⟨0x1B2, 1, 1, 8782, 0, 32, 8⟩, ⟨0x1B3, 1, 1, 8828, 0, 32, 8⟩, ⟨0x1B4, 1, 1, 8828, 0, 32, 2⟩,
   ⟨0x1B5, 1, 1, 8843, 0, 32, 8⟩, ⟨0x1B6, 1, 1, 8843, 0, 32, 2⟩, ⟨0x1B7, 1, 1, 8867, 0, 32, 8⟩,
   ⟨0x1B8, 1, 1, 8872, 0, 32, 8⟩, ⟨0x1B9, 1, 1, 8872, 0, 32, 2⟩, ⟨0x1BA, 1, 1, 8877, 0, 32, 2⟩,
   ⟨0x1BB, 1, 1, 8903, 0, 32, 2⟩, ⟨0x1BC, 1, 1, 8914, 0, 32, 8⟩, ⟨0x1BD, 1, 1, 8914, 0, 32, 2⟩,
   ⟨0x1BF, 1, 1, 8891, 0, 32, 2⟩, ⟨0x1C0, 1, 1, 8958, 0, 32, 2⟩, ⟨0x1C1, 1, 1, 8962, 0, 32, 2⟩,
   ⟨0x1C2, 1, 1, 8966, 0, 32, 2⟩, ⟨0x1C3, 1, 1, 8970, 0, 32, 2⟩, ⟨0x1DD, 1, 1, 8213, 0, 32, 2⟩,
   ⟨0x1E4, 1, 1, 8286, 0, 32, 8⟩, ⟨0x1E5, 1, 1, 8286, 0, 32, 2⟩, ⟨0x1F6, 1, 1, 8317, 0, 32, 8⟩,
   ⟨0x1F7, 1, 1, 8891, 0, 32, 8⟩, ⟨0x21C, 1, 1, 8834, 0, 32, 8⟩, ⟨0x21D, 1, 1, 8834, 0, 32, 2⟩,
   ⟨0x220, 1, 1, 8487, 0, 32, 8⟩, ⟨0x221, 1, 1, 8193, 0, 32, 2⟩, ⟨0x222, 1, 1, 8550, 0, 32, 8⟩,
   ⟨0x223, 1, 1, 8550, 0, 32, 2⟩, ⟨0x224, 1, 1, 8849, 0, 32, 8⟩, ⟨0x225, 1, 1, 8849, 0, 32, 2⟩,
   ⟨0x234, 1, 1, 8439, 0, 32, 2⟩, ⟨0x235, 1, 1, 8497, 0, 32, 2⟩, ⟨0x236, 1, 1, 8718, 0, 32, 2⟩,
   ⟨0x237, 1, 1, 8367, 0, 32, 2⟩, ⟨0x23A, 1, 1, 8103, 0, 32, 8⟩, ⟨0x23B, 1, 1, 8155, 0, 32, 8⟩,
   ⟨0x23C, 1, 1, 8155, 0, 32, 2⟩, ⟨0x23D, 1, 1, 8417, 0, 32, 8⟩, ⟨0x23E, 1, 1, 8704, 0, 32, 8⟩,
   ⟨0x23F, 1, 1, 8670, 0, 32, 2⟩, ⟨0x240, 1, 1, 8861, 0, 32, 2⟩, ⟨0x241, 1, 1, 8926, 0, 32, 8⟩,
   ⟨0x242, 1, 1, 8926, 0, 32, 2⟩, ⟨0x243, 1, 1, 8132, 0, 32, 8⟩, ⟨0x244, 1, 1, 8738, 0, 32, 8⟩,
   ⟨0x245, 1, 1, 8789, 0, 32, 8⟩, ⟨0x246, 1, 1, 8206, 0, 32, 8⟩, ⟨0x247, 1, 1, 8206, 0, 32, 2⟩,
   ⟨0x248, 1, 1, 8372, 0, 32, 8⟩, ⟨0x249, 1, 1, 8372, 0, 32, 2⟩, ⟨0x24A, 1, 1, 8587, 0, 32, 8⟩,
   ⟨0x24B, 1, 1, 8587, 0, 32, 2⟩, ⟨0x24C, 1, 1, 8607, 0, 32, 8⟩, ⟨0x24D, 1, 1, 8607, 0, 32, 2⟩,
   ⟨0x24E, 1, 1, 8824, 0, 32, 8⟩, ⟨0x24F, 1, 1, 8824, 0, 32, 2⟩, ⟨0x300, 1, 1, 0, 0, 37, 2⟩,
   ⟨0x301, 1, 1, 0, 0, 36, 2⟩, ⟨0x302, 1, 1, 0, 0, 39, 2⟩, ⟨0x303, 1, 1, 0, 0, 45, 2⟩,
   ⟨0x304, 1, 1, 0, 0, 50, 2⟩, ⟨0x305, 1, 1, 0, 0, 58, 2⟩, ⟨0x306, 1, 1, 0, 0, 38, 2⟩,
   ⟨0x307, 1, 1, 0, 0, 46, 2⟩, ⟨0x308, 1, 1, 0, 0, 43, 2⟩, ⟨0x309, 1, 1, 0, 0, 59, 2⟩,
   ⟨0x30A, 1, 1, 0, 0, 41, 2⟩, ⟨0x30B, 1, 1, 0, 0, 44, 2⟩, ⟨0x30C, 1, 1, 0, 0, 40, 2⟩,
   ⟨0x30D, 1, 2, 0, 0, 51, 2⟩, ⟨0x30F, 1, 1, 0, 0, 60, 2⟩, ⟨0x310, 1, 1, 0, 0, 61, 2⟩,
   ⟨0x311, 1, 1, 0, 0, 62, 2⟩, ⟨0x312, 1, 1, 0, 0, 51, 2⟩, ⟨0x313, 1, 1, 0, 0, 34, 2⟩,
   ⟨0x314, 1, 1, 0, 0, 35, 2⟩, ⟨0x315, 1, 1, 0, 0, 51, 2⟩, ⟨0x316, 1, 4, 0, 0, 52, 2⟩,
   ⟨0x31A, 1, 1, 0, 0, 51, 2⟩, ⟨0x31B, 1, 1, 0, 0, 63, 2⟩, ⟨0x31C, 1, 5, 0, 0, 52, 2⟩,
   ⟨0x321, 1, 1, 0, 0, 64, 2⟩, ⟨0x322, 1, 1, 0, 0, 65, 2⟩, ⟨0x323, 1, 1, 0, 0, 66, 2⟩,
   ⟨0x324, 1, 1, 0, 0, 67, 2⟩, ⟨0x325, 1, 1, 0, 0, 68, 2⟩, ⟨0x326, 1, 1, 0, 0, 69, 2⟩,
   ⟨0x327, 1, 1, 0, 0, 48, 2⟩, ⟨0x328, 1, 1, 0, 0, 49, 2⟩, ⟨0x329, 1, 4, 0, 0, 52, 2⟩,
   ⟨0x32D, 1, 1, 0, 0, 70, 2⟩, ⟨0x32E, 1, 1, 0, 0, 71, 2⟩, ⟨0x32F, 1, 1, 0, 0, 52, 2⟩,
   ⟨0x330, 1, 1, 0, 0, 72, 2⟩, ⟨0x331, 1, 1, 0, 0, 73, 2⟩, ⟨0x332, 1, 1, 0, 0, 33, 2⟩,
   ⟨0x333, 1, 1, 0, 0, 52, 2⟩, ⟨0x334, 1, 1, 0, 0, 74, 2⟩, ⟨0x335, 1, 1, 0, 0, 57, 2⟩,
   ⟨0x336, 1, 2, 0, 0, 53, 2⟩, ⟨0x338, 1, 1, 0, 0, 47, 2⟩, ⟨0x339, 1, 1, 0, 0, 75, 2⟩,
   ⟨0x33A, 1, 3, 0, 0, 52, 2⟩, ⟨0x33D, 1, 3, 0, 0, 51, 2⟩, ⟨0x340, 1, 1, 0, 0, 37, 2⟩,
   ⟨0x341, 1, 1, 0, 0, 36, 2⟩, ⟨0x342, 1, 1, 0, 0, 42, 2⟩, ⟨0x343, 1, 1, 0, 0, 34, 2⟩,
   ⟨0x345, 1, 1, 0, 0, 76, 2⟩, ⟨0x346, 1, 1, 0, 0, 51, 2⟩, ⟨0x347, 1, 3, 0, 0, 52, 2⟩,
   ⟨0x34A, 1, 3, 0, 0, 51, 2⟩, ⟨0x34D, 1, 2, 0, 0, 52, 2⟩, ⟨0x34F, 1, 1, 0, 0, 0, 0⟩,
   ⟨0x350, 1, 3, 0, 0, 51, 2⟩, ⟨0x353, 1, 4, 0, 0, 52, 2⟩, ⟨0x357, 1, 1, 0, 0, 51, 2⟩,
   ⟨0x358, 1, 1, 0, 0, 77, 2⟩, ⟨0x359, 1, 2, 0, 0, 52, 2⟩, ⟨0x35B, 1, 1, 0, 0, 51, 2⟩,
   ⟨0x35C, 1, 1, 0, 0, 52, 2⟩, ⟨0x35D, 1, 2, 0, 0, 51, 2⟩, ⟨0x35F, 1, 1, 0, 0, 52, 2⟩,
   ⟨0x360, 1, 1, 0, 0, 78, 2⟩, ⟨0x361, 1, 1, 0, 0, 79, 2⟩, ⟨0x362, 1, 1, 0, 0, 52, 2⟩,
   ⟨0x363, 1, 1, 8098, 0, 32, 4⟩, ⟨0x364, 1, 1, 8199, 0, 32, 4⟩, ⟨0x365, 1, 1, 8336, 0, 32, 4⟩,
   ⟨0x366, 1, 1, 8508, 0, 32, 4⟩, ⟨0x367, 1, 1, 8727, 0, 32, 4⟩, ⟨0x368, 1, 1, 8150, 0, 32, 4⟩,
   ⟨0x369, 1, 1, 8171, 0, 32, 4⟩, ⟨0x36A, 1, 1, 8309, 0, 32, 4⟩, ⟨0x36B, 1, 1, 8457, 0, 32, 4⟩,
   ⟨0x36C, 1, 1, 8595, 0, 32, 4⟩, ⟨0x36D, 1, 1, 8695, 0, 32, 4⟩, ⟨0x36E, 1, 1, 8775, 0, 32, 4⟩,
   ⟨0x36F, 1, 1, 8804, 0, 32, 4⟩]

def greekRuns : List WeightRun :=
  [⟨0x370, 1, 1, 9000, 0, 32, 8⟩, ⟨0x371, 1, 1, 9000, 0, 32, 2⟩, ⟨0x372, 1, 1, 9033, 0, 32, 8⟩,
   ⟨0x373, 1, 1, 9033, 0, 32, 2⟩, ⟨0x374, 1, 2, 1221, 1, 32, 2⟩, ⟨0x376, 1, 1, 8997, 0, 32, 8⟩,
   ⟨0x377, 1, 1, 8997, 0, 32, 2⟩, ⟨0x37A, 1, 1, 9003, 0, 32, 4⟩, ⟨0x37B, 1, 1, 9022, 0, 32, 2⟩,
   ⟨0x37C, 1, 2, 9021, 2, 32, 2⟩, ⟨0x37E, 1, 1, 570, 0, 32, 2⟩, ⟨0x37F, 1, 1, 9004, 0, 32, 8⟩,
   ⟨0x384, 1, 1, 1205, 0, 32, 2⟩, ⟨0x387, 1, 1, 659, 0, 32, 2⟩, ⟨0x391, 1, 3, 8990, 1, 32, 8⟩,
   ⟨0x394, 1, 2, 8994, 1, 32, 8⟩, ⟨0x396, 1, 2, 8999, 2, 32, 8⟩, ⟨0x398, 1, 2, 9002, 1, 32, 8⟩,
   ⟨0x39A, 1, 2, 9005, 1, 32, 8⟩, ⟨0x39C, 1, 5, 9008, 1, 32, 8⟩, ⟨0x3A1, 1, 1, 9017, 0, 32, 8⟩,
   ⟨0x3A3, 1, 1, 9020, 0, 32, 8⟩, ⟨0x3A4, 1, 5, 9024, 1, 32, 8⟩, ⟨0x3A9, 1, 1, 9030, 0, 32, 8⟩,
   ⟨0x3B1, 1, 3, 8990, 1, 32, 2⟩, ⟨0x3B4, 1, 2, 8994, 1, 32, 2⟩, ⟨0x3B6, 1, 2, 8999, 2, 32, 2⟩,
   ⟨0x3B8, 1, 2, 9002, 1, 32, 2⟩, ⟨0x3BA, 1, 2, 9005, 1, 32, 2⟩, ⟨0x3BC, 1, 5, 9008, 1, 32, 2⟩,
   ⟨0x3C1, 1, 1, 9017, 0, 32, 2⟩, ⟨0x3C2, 1, 1, 9020, 0, 32, 25⟩, ⟨0x3C3, 1, 1, 9020, 0, 32, 2⟩,
   ⟨0x3C4, 1, 5, 9024, 1, 32, 2⟩, ⟨0x3C9, 1, 1, 9030, 0, 32, 2⟩, ⟨0x3D0, 1, 1, 8991, 0, 32, 4⟩,
   ⟨0x3D1, 1, 1, 9002, 0, 32, 4⟩, ⟨0x3D2, 1, 1, 9025, 0, 32, 10⟩, ⟨0x3D5, 1, 1, 9026, 0, 32, 4⟩,
   ⟨0x3D6, 1, 1, 9012, 0, 32, 4⟩, ⟨0x3D8, 1, 1, 9016, 0, 32, 8⟩, ⟨0x3D9, 1, 1, 9016, 0, 32, 2⟩,
   ⟨0x3DA, 1, 1, 8998, 0, 32, 8⟩, ⟨0x3DB, 1, 1, 8998, 0, 32, 2⟩, ⟨0x3DC, 1, 1, 8996, 0, 32, 8⟩,
   ⟨0x3DD, 1, 1, 8996, 0, 32, 2⟩, ⟨0x3DE, 1, 1, 9015, 0, 32, 8⟩, ⟨0x3DF, 1, 1, 9015, 0, 32, 2⟩,
   ⟨0x3E0, 1, 1, 9032, 0, 32, 8⟩, ⟨0x3E1, 1, 1, 9032, 0, 32, 2⟩, ⟨0x3E2, 1, 1, 9066, 0, 32, 8⟩,
   ⟨0x3E3, 1, 1, 9066, 0, 32, 2⟩, ⟨0x3E4, 1, 1, 9071, 0, 32, 8⟩, ⟨0x3E5, 1, 1, 9071, 0, 32, 2⟩,
   ⟨0x3E6, 1, 1, 9072, 0, 32, 8⟩, ⟨0x3E7, 1, 1, 9072, 0, 32, 2⟩, ⟨0x3E8, 1, 1, 9075, 0, 32, 8⟩,
   ⟨0x3E9, 1, 1, 9075, 0, 32, 2⟩, ⟨0x3EA, 1, 1, 9082, 0, 32, 8⟩, ⟨0x3EB, 1, 1, 9082, 0, 32, 2⟩,
   ⟨0x3EC, 1, 1, 9085, 0, 32, 8⟩, ⟨0x3ED, 1, 1, 9085, 0, 32, 2⟩, ⟨0x3EE, 1, 1, 9089, 0, 32, 8⟩,
   ⟨0x3EF, 1, 1, 9089, 0, 32, 2⟩, ⟨0x3F0, 1, 1, 9005, 0, 32, 4⟩, ⟨0x3F1, 1, 1, 9017, 0, 32, 4⟩,
   ⟨0x3F2, 1, 1, 9020, 0, 32, 4⟩, ⟨0x3F3, 1, 1, 9004, 0, 32, 2⟩, ⟨0x3F4, 1, 1, 9002, 0, 32, 10⟩,
   ⟨0x3F5, 1, 1, 8995, 0, 32, 4⟩, ⟨0x3F6, 1, 1, 1633, 0, 32, 2⟩, ⟨0x3F7, 1, 1, 9034, 0, 32, 8⟩,
   ⟨0x3F8, 1, 1, 9034, 0, 32, 2⟩, ⟨0x3F9, 1, 1, 9020, 0, 32, 10⟩, ⟨0x3FA, 1, 1, 9014, 0, 32, 8⟩,
   ⟨0x3FB, 1, 1, 9014, 0, 32, 2⟩, ⟨0x3FC, 1, 1, 9019, 0, 32, 2⟩, ⟨0x3FD, 1, 1, 9022, 0, 32, 8⟩,
   ⟨0x3FE, 1, 2, 9021, 2, 32, 8⟩]

def cyrillicRuns : List WeightRun :=
  [⟨0x402, 1, 1, 9141, 0, 32, 8⟩, ⟨0x404, 1, 1, 9155, 0, 32, 8⟩, ⟨0x405, 1, 1, 9177, 0, 32, 8⟩,
   ⟨0x406, 1, 1, 9197, 0, 32, 8⟩, ⟨0x408, 1, 1, 9206, 0, 32, 8⟩, ⟨0x409, 1, 1, 9249, 0, 32, 8⟩,
   ⟨0x40A, 1, 1, 9287, 0, 32, 8⟩, ⟨0x40B, 1, 1, 9342, 0, 32, 8⟩, ⟨0x40F, 1, 1, 9444, 0, 32, 8⟩,
   ⟨0x410, 1, 1, 9095, 0, 32, 8⟩, ⟨0x411, 1, 1, 9107, 0, 32, 8⟩, ⟨0x412, 1, 1, 9111, 0, 32, 8⟩,
   ⟨0x413, 1, 1, 9115, 0, 32, 8⟩, ⟨0x414, 1, 1, 9135, 0, 32, 8⟩, ⟨0x415, 1, 1, 9151, 0, 32, 8⟩,
   ⟨0x416, 1, 1, 9159, 0, 32, 8⟩, ⟨0x417, 1, 1, 9169, 0, 32, 8⟩, ⟨0x418, 1, 1, 9189, 0, 32, 8⟩,
   ⟨0x419, 1, 1, 9202, 0, 32, 8⟩, ⟨0x41A, 1, 1, 9211, 0, 32, 8⟩, ⟨0x41B, 1, 1, 9237, 0, 32, 8⟩,
   ⟨0x41C, 1, 1, 9256, 0, 32, 8⟩, ⟨0x41D, 1, 1, 9265, 0, 32, 8⟩, ⟨0x41E, 1, 1, 9292, 0, 32, 8⟩,
   ⟨0x41F, 1, 1, 9300, 0, 32, 8⟩, ⟨0x420, 1, 1, 9313, 0, 32, 8⟩, ⟨0x421, 1, 1, 9322, 0, 32, 8⟩,
   ⟨0x422, 1, 1, 9331, 0, 32, 8⟩, ⟨0x423, 1, 1, 9346, 0, 32, 8⟩, ⟨0x424, 1, 1, 9363, 0, 32, 8⟩,
   ⟨0x425, 1, 1, 9367, 0, 32, 8⟩, ⟨0x426, 1, 1, 9406, 0, 32, 8⟩, ⟨0x427, 1, 1, 9417, 0, 32, 8⟩,
   ⟨0x428, 1, 1, 9448, 0, 32, 8⟩, ⟨0x429, 1, 1, 9453, 0, 32, 8⟩, ⟨0x42A, 1, 1, 9460, 0, 32, 8⟩,
   ⟨0x42B, 1, 1, 9465, 0, 32, 8⟩, ⟨0x42C, 1, 1, 9469, 0, 32, 8⟩, ⟨0x42D, 1, 1, 9482, 0, 32, 8⟩,
   ⟨0x42E, 1, 1, 9486, 0, 32, 8⟩, ⟨0x42F, 1, 1, 9492, 0, 32, 8⟩, ⟨0x430, 1, 1, 9095, 0, 32, 2⟩,
   ⟨0x431, 1, 1, 9107, 0, 32, 2⟩, ⟨0x432, 1, 1, 9111, 0, 32, 2⟩, ⟨0x433, 1, 1, 9115, 0, 32, 2⟩,
   ⟨0x434, 1, 1, 9135, 0, 32, 2⟩, ⟨0x435, 1, 1, 9151, 0, 32, 2⟩, ⟨0x436, 1, 1, 9159, 0, 32, 2⟩,
   ⟨0x437, 1, 1, 9169, 0, 32, 2⟩, ⟨0x438, 1, 1, 9189, 0, 32, 2⟩, ⟨0x439, 1, 1, 9202, 0, 32, 2⟩,
   ⟨0x43A, 1, 1, 9211, 0, 32, 2⟩, ⟨0x43B, 1, 1, 9237, 0, 32, 2⟩, ⟨0x43C, 1, 1, 9256, 0, 32, 2⟩,
   ⟨0x43D, 1, 1, 9265, 0, 32, 2⟩, ⟨0x43E, 1, 1, 9292, 0, 32, 2⟩, ⟨0x43F, 1, 1, 9300, 0, 32, 2⟩,
   ⟨0x440, 1, 1, 9313, 0, 32, 2⟩, ⟨0x441, 1, 1, 9322, 0, 32, 2⟩, ⟨0x442, 1, 1, 9331, 0, 32, 2⟩,
   ⟨0x443, 1, 1, 9346, 0, 32, 2⟩, ⟨0x444, 1, 1, 9363, 0, 32, 2⟩, ⟨0x445, 1, 1, 9367, 0, 32, 2⟩,
   ⟨0x446, 1, 1, 9406, 0, 32, 2⟩, ⟨0x447, 1, 1, 9417, 0, 32, 2⟩, ⟨0x448, 1, 1, 9448, 0, 32, 2⟩,
   ⟨0x449, 1, 1, 9453, 0, 32, 2⟩, ⟨0x44A, 1, 1, 9460, 0, 32, 2⟩, ⟨0x44B, 1, 1, 9465, 0, 32, 2⟩,
   ⟨0x44C, 1, 1, 9469, 0, 32, 2⟩, ⟨0x44D, 1, 1, 9482, 0, 32, 2⟩, ⟨0x44E, 1, 1, 9486, 0, 32, 2⟩,
   ⟨0x44F, 1, 1, 9492, 0, 32, 2⟩, ⟨0x452, 1, 1, 9141, 0, 32, 2⟩, ⟨0x454, 1, 1, 9155, 0, 32, 2⟩,
   ⟨0x455, 1, 1, 9177, 0, 32, 2⟩, ⟨0x456, 1, 1, 9197, 0, 32, 2⟩, ⟨0x458, 1, 1, 9206, 0, 32, 2⟩,
   ⟨0x459, 1, 1, 9249, 0, 32, 2⟩, ⟨0x45A, 1, 1, 9287, 0, 32, 2⟩, ⟨0x45B, 1, 1, 9342, 0, 32, 2⟩,
   ⟨0x45F, 1, 1, 9444, 0, 32, 2⟩, ⟨0x460, 1, 1, 9389, 0, 32, 8⟩, ⟨0x461, 1, 1, 9389, 0, 32, 2⟩,
   ⟨0x462, 1, 1, 9477, 0, 32, 8⟩, ⟨0x463, 1, 1, 9477, 0, 32, 2⟩, ⟨0x464, 1, 1, 9497, 0, 32, 8⟩,
   ⟨0x465, 1, 1, 9497, 0, 32, 2⟩, ⟨0x466, 1, 1, 9501, 0, 32, 8⟩, ⟨0x467, 1, 1, 9501, 0, 32, 2⟩,
   ⟨0x468, 1, 1, 9511, 0, 32, 8⟩, ⟨0x469, 1, 1, 9511, 0, 32, 2⟩, ⟨0x46A, 1, 1, 9506, 0, 32, 8⟩,
   ⟨0x46B, 1, 1, 9506, 0, 32, 2⟩, ⟨0x46C, 1, 1, 9516, 0, 32, 8⟩, ⟨0x46D, 1, 1, 9516, 0, 32, 2⟩,
   ⟨0x46E, 1, 1, 9520, 0, 32, 8⟩, ⟨0x46F, 1, 1, 9520, 0, 32, 2⟩, ⟨0x470, 1, 1, 9524, 0, 32, 8⟩,
   ⟨0x471, 1, 1, 9524, 0, 32, 2⟩, ⟨0x472, 1, 1, 9528, 0, 32, 8⟩, ⟨0x473, 1, 1, 9528, 0, 32, 2⟩,
   ⟨0x474, 1, 1, 9532, 0, 32, 8⟩, ⟨0x475, 1, 1, 9532, 0, 32, 2⟩, ⟨0x478, 1, 1, 9359, 0, 32, 8⟩,
   ⟨0x479, 1, 1, 9359, 0, 32, 2⟩, ⟨0x47A, 1, 1, 9402, 0, 32, 8⟩, ⟨0x47B, 1, 1, 9402, 0, 32, 2⟩,
   ⟨0x47C, 1, 1, 9398, 0, 32, 8⟩, ⟨0x47D, 1, 1, 9398, 0, 32, 2⟩, ⟨0x47E, 1, 1, 9393, 0, 32, 8⟩,
   ⟨0x47F, 1, 1, 9393, 0, 32, 2⟩, ⟨0x480, 1, 1, 9309, 0, 32, 8⟩, ⟨0x481, 1, 1, 9309, 0, 32, 2⟩,
   ⟨0x482, 1, 1, 1323, 0, 32, 2⟩, ⟨0x483, 1, 1, 0, 0, 80, 2⟩, ⟨0x484, 1, 1, 0, 0, 51, 2⟩,
   ⟨0x485, 1, 1, 0, 0, 35, 2⟩, ⟨0x486, 1, 1, 0, 0, 34, 2⟩, ⟨0x487, 1, 1, 0, 0, 51, 2⟩,
   ⟨0x488, 1, 2, 0, 0, 0, 0⟩, ⟨0x48A, 1, 1, 9193, 0, 32, 8⟩, ⟨0x48B, 1, 1, 9193, 0, 32, 2⟩,
   ⟨0x48C, 1, 1, 9473, 0, 32, 8⟩, ⟨0x48D, 1, 1, 9473, 0, 32, 2⟩, ⟨0x48E, 1, 1, 9317, 0, 32, 8⟩,
   ⟨0x48F, 1, 1, 9317, 0, 32, 2⟩, ⟨0x492, 1, 1, 9119, 0, 32, 8⟩, ⟨0x493, 1, 1, 9119, 0, 32, 2⟩,
   ⟨0x494, 1, 1, 9127, 0, 32, 8⟩, ⟨0x495, 1, 1, 9127, 0, 32, 2⟩, ⟨0x496, 1, 1, 9165, 0, 32, 8⟩,
   ⟨0x497, 1, 1, 9165, 0, 32, 2⟩, ⟨0x498, 1, 1, 9147, 0, 32, 8⟩, ⟨0x499, 1, 1, 9147, 0, 32, 2⟩,
   ⟨0x49A, 1, 1, 9215, 0, 32, 8⟩, ⟨0x49B, 1, 1, 9215, 0, 32, 2⟩, ⟨0x49C, 1, 1, 9231, 0, 32, 8⟩,
   ⟨0x49D, 1, 1, 9231, 0, 32, 2⟩, ⟨0x49E, 1, 1, 9227, 0, 32, 8⟩, ⟨0x49F, 1, 1, 9227, 0, 32, 2⟩,
   ⟨0x4A0, 1, 1, 9223, 0, 32, 8⟩, ⟨0x4A1, 1, 1, 9223, 0, 32, 2⟩, ⟨0x4A2, 1, 1, 9274, 0, 32, 8⟩,
   ⟨0x4A3, 1, 1, 9274, 0, 32, 2⟩, ⟨0x4A4, 1, 1, 9283, 0, 32, 8⟩, ⟨0x4A5, 1, 1, 9283, 0, 32, 2⟩,
   ⟨0x4A6, 1, 1, 9305, 0, 32, 8⟩, ⟨0x4A7, 1, 1, 9305, 0, 32, 2⟩, ⟨0x4A8, 1, 1, 9537, 0, 32, 8⟩,
   ⟨0x4A9, 1, 1, 9537, 0, 32, 2⟩, ⟨0x4AA, 1, 1, 9327, 0, 32, 8⟩, ⟨0x4AB, 1, 1, 9327, 0, 32, 2⟩,
   ⟨0x4AC, 1, 1, 9337, 0, 32, 8⟩, ⟨0x4AD, 1, 1, 9337, 0, 32, 2⟩, ⟨0x4AE, 1, 1, 9350, 0, 32, 8⟩,
   ⟨0x4AF, 1, 1, 9350, 0, 32, 2⟩, ⟨0x4B0, 1, 1, 9354, 0, 32, 8⟩, ⟨0x4B1, 1, 1, 9354, 0, 32, 2⟩,
   ⟨0x4B2, 1, 1, 9379, 0, 32, 8⟩, ⟨0x4B3, 1, 1, 9379, 0, 32, 2⟩, ⟨0x4B4, 1, 1, 9412, 0, 32, 8⟩,
   ⟨0x4B5, 1, 1, 9412, 0, 32, 2⟩, ⟨0x4B6, 1, 1, 9423, 0, 32, 8⟩, ⟨0x4B7, 1, 1, 9423, 0, 32, 2⟩,
   ⟨0x4B8, 1, 1, 9431, 0, 32, 8⟩, ⟨0x4B9, 1, 1, 9431, 0, 32, 2⟩, ⟨0x4BA, 1, 1, 9383, 0, 32, 8⟩,
   ⟨0x4BB, 1, 1, 9383, 0, 32, 2⟩, ⟨0x4BC, 1, 1, 9436, 0, 32, 8⟩, ⟨0x4BD, 1, 1, 9436, 0, 32, 2⟩,
   ⟨0x4BE, 1, 1, 9440, 0, 32, 8⟩, ⟨0x4BF, 1, 1, 9440, 0, 32, 2⟩, ⟨0x4C0, 1, 1, 9542, 0, 32, 8⟩,
   ⟨0x4C3, 1, 1, 9219, 0, 32, 8⟩, ⟨0x4C4, 1, 1, 9219, 0, 32, 2⟩, ⟨0x4C5, 1, 1, 9242, 0, 32, 8⟩,
   ⟨0x4C6, 1, 1, 9242, 0, 32, 2⟩, ⟨0x4C7, 1, 1, 9278, 0, 32, 8⟩, ⟨0x4C8, 1, 1, 9278, 0, 32, 2⟩,
   ⟨0x4C9, 1, 1, 9270, 0, 32, 8⟩, ⟨0x4CA, 1, 1, 9270, 0, 32, 2⟩, ⟨0x4CB, 1, 1, 9427, 0, 32, 8⟩,
   ⟨0x4CC, 1, 1, 9427, 0, 32, 2⟩, ⟨0x4CD, 1, 1, 9260, 0, 32, 8⟩, ⟨0x4CE, 1, 1, 9260, 0, 32, 2⟩,
   ⟨0x4CF, 1, 1, 9542, 0, 32, 2⟩, ⟨0x4D4, 1, 1, 9103, 0, 32, 8⟩, ⟨0x4D5, 1, 1, 9103, 0, 32, 2⟩,
   ⟨0x4D8, 1, 1, 9099, 0, 32, 8⟩, ⟨0x4D9, 1, 1, 9099, 0, 32, 2⟩, ⟨0x4E0, 1, 1, 9182, 0, 32, 8⟩,
   ⟨0x4E1, 1, 1, 9182, 0, 32, 2⟩, ⟨0x4E8, 1, 1, 9296, 0, 32, 8⟩, ⟨0x4E9, 1, 1, 9296, 0, 32, 2⟩,
   ⟨0x4F6, 1, 1, 9131, 0, 32, 8⟩, ⟨0x4F7, 1, 1, 9131, 0, 32, 2⟩, ⟨0x4FA, 1, 1, 9123, 0, 32, 8⟩,
   ⟨0x4FB, 1, 1, 9123, 0, 32, 2⟩, ⟨0x4FC, 1, 1, 9371, 0, 32, 8⟩, ⟨0x4FD, 1, 1, 9371, 0, 32, 2⟩,
   ⟨0x4FE, 1, 1, 9375, 0, 32, 8⟩, ⟨0x4FF, 1, 1, 9375, 0, 32, 2⟩, ⟨0x500, 1, 1, 9139, 0, 32, 8⟩,
   ⟨0x501, 1, 1, 9139, 0, 32, 2⟩, ⟨0x502, 1, 1, 9146, 0, 32, 8⟩, ⟨0x503, 1, 1, 9146, 0, 32, 2⟩,
   ⟨0x504, 1, 1, 9174, 0, 32, 8⟩, ⟨0x505, 1, 1, 9174, 0, 32, 2⟩, ⟨0x506, 1, 1, 9187, 0, 32, 8⟩,
   ⟨0x507, 1, 1, 9187, 0, 32, 2⟩, ⟨0x508, 1, 1, 9254, 0, 32, 8⟩, ⟨0x509, 1, 1, 9254, 0, 32, 2⟩,
   ⟨0x50A, 1, 1, 9291, 0, 32, 8⟩, ⟨0x50B, 1, 1, 9291, 0, 32, 2⟩, ⟨0x50C, 1, 1, 9326, 0, 32, 8⟩,
   ⟨0x50D, 1, 1, 9326, 0, 32, 2⟩, ⟨0x50E, 1, 1, 9336, 0, 32, 8⟩, ⟨0x50F, 1, 1, 9336, 0, 32, 2⟩,
   ⟨0x510, 1, 1, 9175, 0, 32, 8⟩, ⟨0x511, 1, 1, 9175, 0, 32, 2⟩, ⟨0x512, 1, 1, 9247, 0, 32, 8⟩,
   ⟨0x513, 1, 1, 9247, 0, 32, 2⟩, ⟨0x514, 1, 1, 9255, 0, 32, 8⟩, ⟨0x515, 1, 1, 9255, 0, 32, 2⟩,
   ⟨0x516, 1, 1, 9321, 0, 32, 8⟩, ⟨0x517, 1, 1, 9321, 0, 32, 2⟩, ⟨0x518, 1, 1, 9496, 0, 32, 8⟩,
   ⟨0x519, 1, 1, 9496, 0, 32, 2⟩, ⟨0x51A, 1, 1, 9236, 0, 32, 8⟩, ⟨0x51B, 1, 1, 9236, 0, 32, 2⟩,
   ⟨0x51C, 1, 1, 9541, 0, 32, 8⟩, ⟨0x51D, 1, 1, 9541, 0, 32, 2⟩, ⟨0x51E, 1, 1, 9235, 0, 32, 8⟩,
   ⟨0x51F, 1, 1, 9235, 0, 32, 2⟩, ⟨0x520, 1, 1, 9248, 0, 32, 8⟩, ⟨0x521, 1, 1, 9248, 0, 32, 2⟩,
   ⟨0x522, 1, 1, 9282, 0, 32, 8⟩, ⟨0x523, 1, 1, 9282, 0, 32, 2⟩, ⟨0x524, 1, 1, 9304, 0, 32, 8⟩,
   ⟨0x525, 1, 1, 9304, 0, 32, 2⟩, ⟨0x526, 1, 1, 9387, 0, 32, 8⟩, ⟨0x527, 1, 1, 9387, 0, 32, 2⟩,
   ⟨0x528, 1, 1, 9269, 0, 32, 8⟩, ⟨0x529, 1, 1, 9269, 0, 32, 2⟩, ⟨0x52A, 1, 1, 9163, 0, 32, 8⟩,
   ⟨0x52B, 1, 1, 9163, 0, 32, 2⟩, ⟨0x52C, 1, 1, 9421, 0, 32, 8⟩, ⟨0x52D, 1, 1, 9421, 0, 32, 2⟩,
   ⟨0x52E, 1, 1, 9246, 0, 32, 8⟩, ⟨0x52F, 1, 1, 9246, 0, 32, 2⟩]

def signRuns : List WeightRun :=
  [⟨0x1100, 1, 19, 16757, 1, 32, 2⟩, ⟨0x1161, 1, 21, 16883, 1, 32, 2⟩,
   ⟨0x11A8, 1, 27, 16977, 1, 32, 2⟩, ⟨0x1E9C, 1, 2, 8674, 1, 32, 2⟩,
   ⟨0x1E9F, 1, 1, 8198, 0, 32, 2⟩, ⟨0x1EFC, 1, 1, 8788, 0, 32, 8⟩, ⟨0x1EFD, 1, 1, 8788, 0, 32, 2⟩,
   ⟨0x1EFE, 1, 1, 8832, 0, 32, 8⟩, ⟨0x1EFF, 1, 1, 8832, 0, 32, 2⟩, ⟨0x2000, 1, 7, 521, 0, 32, 4⟩,
   ⟨0x2007, 1, 1, 521, 0, 32, 27⟩, ⟨0x2008, 1, 3, 521, 0, 32, 4⟩, ⟨0x200B, 1, 5, 0, 0, 0, 0⟩,
   ⟨0x2010, 1, 1, 531, 0, 32, 2⟩, ⟨0x2011, 1, 1, 531, 0, 32, 27⟩, ⟨0x2012, 1, 4, 532, 1, 32, 2⟩,
   ⟨0x2016, 1, 1, 916, 0, 32, 2⟩, ⟨0x2017, 1, 1, 524, 0, 32, 2⟩, ⟨0x2018, 1, 4, 791, 1, 32, 2⟩,
   ⟨0x201C, 1, 4, 798, 1, 32, 2⟩, ⟨0x2020, 1, 2, 947, 1, 32, 2⟩, ⟨0x2022, 1, 2, 953, 1, 32, 2⟩,
   ⟨0x2024, 1, 1, 638, 0, 32, 4⟩, ⟨0x2027, 1, 1, 955, 0, 32, 2⟩, ⟨0x2028, 1, 2, 519, 1, 32, 2⟩,
   ⟨0x202A, 1, 5, 0, 0, 0, 0⟩, ⟨0x202F, 1, 1, 521, 0, 32, 27⟩, ⟨0x2030, 1, 2, 943, 2, 32, 2⟩,
   ⟨0x2032, 1, 1, 959, 0, 32, 2⟩, ⟨0x2035, 1, 1, 960, 0, 32, 2⟩, ⟨0x2038, 1, 1, 963, 0, 32, 2⟩,
   ⟨0x2039, 1, 2, 795, 1, 32, 2⟩, ⟨0x203B, 1, 1, 964, 0, 32, 2⟩, ⟨0x203D, 1, 1, 636, 0, 32, 2⟩,
   ⟨0x203E, 1, 1, 522, 0, 32, 2⟩, ⟨0x203F, 1, 3, 965, 2, 32, 2⟩, ⟨0x2042, 1, 1, 970, 0, 32, 2⟩,
   ⟨0x2043, 1, 1, 956, 0, 32, 2⟩, ⟨0x2044, 1, 1, 1654, 0, 32, 2⟩, ⟨0x2045, 1, 2, 820, 1, 32, 2⟩,
   ⟨0x204A, 1, 1, 938, 0, 32, 2⟩, ⟨0x204B, 1, 1, 925, 0, 32, 2⟩, ⟨0x204C, 1, 2, 957, 1, 32, 2⟩,
   ⟨0x204E, 1, 1, 930, 0, 32, 2⟩, ⟨0x204F, 1, 1, 572, 0, 32, 2⟩, ⟨0x2050, 1, 1, 968, 0, 32, 2⟩,
   ⟨0x2051, 1, 1, 931, 0, 32, 2⟩, ⟨0x2052, 1, 1, 1650, 0, 32, 2⟩, ⟨0x2053, 1, 1, 538, 0, 32, 2⟩,
   ⟨0x2054, 1, 1, 966, 0, 32, 2⟩, ⟨0x2055, 1, 2, 761, 1, 32, 2⟩, ⟨0x2058, 1, 7, 763, 1, 32, 2⟩,
   ⟨0x205F, 1, 1, 521, 0, 32, 4⟩, ⟨0x2060, 2, 8, 0, 0, 0, 0⟩, ⟨0x2061, 1, 1, 0, 0, 0, 0⟩,
   ⟨0x2063, 1, 1, 0, 0, 0, 0⟩, ⟨0x2067, 2, 5, 0, 0, 0, 0⟩, ⟨0x2070, 1, 1, 8088, 0, 32, 20⟩,
   ⟨0x2071, 1, 1, 8336, 0, 32, 20⟩, ⟨0x2074, 1, 6, 8092, 1, 32, 20⟩,
   ⟨0x207A, 1, 1, 1638, 0, 32, 20⟩, ⟨0x207B, 1, 1, 1649, 0, 32, 20⟩,
   ⟨0x207C, 1, 1, 1643, 0, 32, 20⟩, ⟨0x207D, 1, 2, 808, 1, 32, 20⟩,
   ⟨0x207F, 1, 1, 8472, 0, 32, 20⟩, ⟨0x2080, 1, 10, 8088, 1, 32, 21⟩,
   ⟨0x208A, 1, 1, 1638, 0, 32, 21⟩, ⟨0x208B, 1, 1, 1649, 0, 32, 21⟩,
   ⟨0x208C, 1, 1, 1643, 0, 32, 21⟩, ⟨0x208D, 1, 2, 808, 1, 32, 21⟩,
   ⟨0x2090, 1, 1, 8098, 0, 32, 21⟩, ⟨0x2091, 1, 1, 8199, 0, 32, 21⟩,
   ⟨0x2092, 1, 1, 8508, 0, 32, 21⟩, ⟨0x2093, 1, 1, 8804, 0, 32, 21⟩,
   ⟨0x2094, 1, 1, 8218, 0, 32, 21⟩, ⟨0x2095, 1, 1, 8309, 0, 32, 21⟩,
   ⟨0x2096, 1, 1, 8388, 0, 32, 21⟩, ⟨0x2097, 1, 1, 8406, 0, 32, 21⟩,
   ⟨0x2098, 1, 1, 8457, 0, 32, 21⟩, ⟨0x2099, 1, 1, 8472, 0, 32, 21⟩,
   ⟨0x209A, 1, 1, 8555, 0, 32, 21⟩, ⟨0x209B, 1, 1, 8658, 0, 32, 21⟩,
   ⟨0x209C, 1, 1, 8695, 0, 32, 21⟩, ⟨0x20A0, 1, 8, 8056, 1, 32, 2⟩,
   ⟨0x20A9, 1, 17, 8064, 1, 32, 2⟩, ⟨0x20BA, 1, 6, 8082, 1, 32, 2⟩,
   ⟨0x2102, 1, 1, 8150, 0, 32, 11⟩, ⟨0x2104, 1, 1, 1494, 0, 32, 2⟩,
   ⟨0x2107, 1, 1, 8223, 0, 32, 10⟩, ⟨0x2108, 1, 1, 1495, 0, 32, 2⟩, ⟨0x210A, 1, 1, 8273, 0, 32, 5⟩,
   ⟨0x210B, 1, 3, 8309, 0, 32, 11⟩, ⟨0x210E, 1, 1, 8309, 0, 32, 5⟩,
   ⟨0x2110, 1, 2, 8336, 0, 32, 11⟩, ⟨0x2112, 1, 1, 8406, 0, 32, 11⟩,
   ⟨0x2113, 1, 1, 8406, 0, 32, 5⟩, ⟨0x2114, 1, 1, 1496, 0, 32, 2⟩, ⟨0x2115, 1, 1, 8472, 0, 32, 11⟩,
   ⟨0x2117, 1, 2, 1497, 1, 32, 2⟩, ⟨0x2119, 1, 1, 8555, 0, 32, 11⟩,
   ⟨0x211A, 1, 1, 8576, 0, 32, 11⟩, ⟨0x211B, 1, 3, 8595, 0, 32, 11⟩,
   ⟨0x211E, 1, 2, 1499, 1, 32, 2⟩, ⟨0x2123, 2, 4, 1501, 1, 32, 2⟩, ⟨0x2124, 1, 1, 8838, 0, 32, 11⟩,
   ⟨0x2126, 1, 1, 9030, 0, 32, 8⟩, ⟨0x2128, 1, 1, 8838, 0, 32, 11⟩, ⟨0x212A, 1, 1, 8388, 0, 32, 8⟩,
   ⟨0x212C, 1, 1, 8124, 0, 32, 11⟩, ⟨0x212D, 1, 1, 8150, 0, 32, 11⟩,
   ⟨0x212E, 1, 1, 1505, 0, 32, 2⟩, ⟨0x212F, 1, 1, 8199, 0, 32, 5⟩, ⟨0x2130, 1, 1, 8199, 0, 32, 11⟩,
   ⟨0x2131, 1, 1, 8258, 0, 32, 11⟩, ⟨0x2132, 1, 1, 8271, 0, 32, 8⟩,
   ⟨0x2133, 1, 1, 8457, 0, 32, 11⟩, ⟨0x2134, 1, 1, 8508, 0, 32, 5⟩, ⟨0x2135, 1, 4, 9758, 1, 32, 4⟩,
   ⟨0x2139, 1, 1, 8336, 0, 32, 5⟩, ⟨0x213A, 1, 1, 1506, 0, 32, 2⟩, ⟨0x213C, 1, 1, 9012, 0, 32, 5⟩,
   ⟨0x213D, 1, 1, 8992, 0, 32, 5⟩, ⟨0x213E, 1, 1, 8992, 0, 32, 11⟩,
   ⟨0x213F, 1, 1, 9012, 0, 32, 11⟩, ⟨0x2140, 1, 1, 1637, 0, 32, 5⟩, ⟨0x2141, 1, 4, 1507, 1, 32, 2⟩,
   ⟨0x2145, 1, 1, 8171, 0, 32, 11⟩, ⟨0x2146, 1, 1, 8171, 0, 32, 5⟩, ⟨0x2147, 1, 1, 8199, 0, 32, 5⟩,
   ⟨0x2148, 1, 1, 8336, 0, 32, 5⟩, ⟨0x2149, 1, 1, 8363, 0, 32, 5⟩, ⟨0x214A, 1, 1, 1511, 0, 32, 2⟩,
   ⟨0x214B, 1, 1, 1793, 0, 32, 2⟩, ⟨0x214C, 1, 1, 1512, 0, 32, 2⟩, ⟨0x214E, 1, 1, 8271, 0, 32, 2⟩,
   ⟨0x214F, 1, 1, 1513, 0, 32, 2⟩, ⟨0x2190, 1, 2, 1516, 2, 32, 2⟩, ⟨0x2192, 1, 2, 1517, 2, 32, 2⟩,
   ⟨0x2194, 1, 6, 1520, 1, 32, 2⟩, ⟨0x219C, 1, 18, 1526, 1, 32, 2⟩,
   ⟨0x21AF, 1, 30, 1544, 1, 32, 2⟩, ⟨0x21D0, 1, 52, 1574, 1, 32, 2⟩,
   ⟨0x2205, 1, 4, 1626, 1, 32, 2⟩, ⟨0x220A, 1, 2, 1630, 1, 32, 2⟩, ⟨0x220D, 1, 2, 1632, 2, 32, 2⟩,
   ⟨0x220F, 1, 3, 1635, 1, 32, 2⟩, ⟨0x2212, 1, 2, 1649, 2, 32, 2⟩, ⟨0x2214, 1, 2, 1652, 1, 32, 2⟩,
   ⟨0x2216, 1, 6, 1655, 1, 32, 2⟩, ⟨0x221C, 1, 2, 1662, 2, 32, 2⟩, ⟨0x221E, 1, 6, 1665, 1, 32, 2⟩,
   ⟨0x2225, 1, 1, 1671, 0, 32, 2⟩, ⟨0x2227, 1, 5, 1672, 1, 32, 2⟩, ⟨0x222E, 1, 1, 1677, 0, 32, 2⟩,
   ⟨0x2231, 1, 16, 1678, 1, 32, 2⟩, ⟨0x2242, 1, 2, 1694, 1, 32, 2⟩, ⟨0x2245, 1, 2, 1696, 1, 32, 2⟩,
   ⟨0x2248, 1, 1, 1698, 0, 32, 2⟩, ⟨0x224A, 1, 22, 1699, 1, 32, 2⟩, ⟨0x2261, 1, 1, 1721, 0, 32, 2⟩,
   ⟨0x2263, 1, 10, 1722, 1, 32, 2⟩, ⟨0x2272, 1, 2, 1732, 1, 32, 2⟩, ⟨0x2276, 1, 2, 1734, 1, 32, 2⟩,
   ⟨0x227A, 1, 6, 1736, 1, 32, 2⟩, ⟨0x2282, 1, 2, 1742, 1, 32, 2⟩, ⟨0x2286, 1, 2, 1744, 1, 32, 2⟩,
   ⟨0x228A, 1, 34, 1746, 1, 32, 2⟩, ⟨0x22B0, 1, 13, 1780, 1, 32, 2⟩,
   ⟨0x22BD, 1, 35, 1794, 1, 32, 2⟩, ⟨0x22E4, 1, 6, 1829, 1, 32, 2⟩,
   ⟨0x22EE, 1, 26, 1835, 1, 32, 2⟩, ⟨0x2308, 1, 4, 822, 1, 32, 2⟩, ⟨0x230C, 1, 29, 1861, 1, 32, 2⟩,
   ⟨0x2329, 1, 2, 896, 1, 32, 2⟩, ⟨0x232B, 1, 252, 1890, 1, 32, 2⟩,
   ⟨0x2440, 1, 11, 2142, 1, 32, 2⟩, ⟨0x2460, 1, 9, 8089, 1, 32, 6⟩,
   ⟨0x24B6, 1, 1, 8098, 0, 32, 12⟩, ⟨0x24B7, 1, 1, 8124, 0, 32, 12⟩,
   ⟨0x24B8, 1, 1, 8150, 0, 32, 12⟩, ⟨0x24B9, 1, 1, 8171, 0, 32, 12⟩,
   ⟨0x24BA, 1, 1, 8199, 0, 32, 12⟩, ⟨0x24BB, 1, 1, 8258, 0, 32, 12⟩,
   ⟨0x24BC, 1, 1, 8273, 0, 32, 12⟩, ⟨0x24BD, 1, 1, 8309, 0, 32, 12⟩,
   ⟨0x24BE, 1, 1, 8336, 0, 32, 12⟩, ⟨0x24BF, 1, 1, 8363, 0, 32, 12⟩,
   ⟨0x24C0, 1, 1, 8388, 0, 32, 12⟩, ⟨0x24C1, 1, 1, 8406, 0, 32, 12⟩,
   ⟨0x24C2, 1, 1, 8457, 0, 32, 12⟩, ⟨0x24C3, 1, 1, 8472, 0, 32, 12⟩,
   ⟨0x24C4, 1, 1, 8508, 0, 32, 12⟩, ⟨0x24C5, 1, 1, 8555, 0, 32, 12⟩,
   ⟨0x24C6, 1, 1, 8576, 0, 32, 12⟩, ⟨0x24C7, 1, 1, 8595, 0, 32, 12⟩,
   ⟨0x24C8, 1, 1, 8658, 0, 32, 12⟩, ⟨0x24C9, 1, 1, 8695, 0, 32, 12⟩,
   ⟨0x24CA, 1, 1, 8727, 0, 32, 12⟩, ⟨0x24CB, 1, 1, 8775, 0, 32, 12⟩,
   ⟨0x24CC, 1, 1, 8793, 0, 32, 12⟩, ⟨0x24CD, 1, 1, 8804, 0, 32, 12⟩,
   ⟨0x24CE, 1, 1, 8816, 0, 32, 12⟩, ⟨0x24CF, 1, 1, 8838, 0, 32, 12⟩,
   ⟨0x24D0, 1, 1, 8098, 0, 32, 6⟩, ⟨0x24D1, 1, 1, 8124, 0, 32, 6⟩, ⟨0x24D2, 1, 1, 8150, 0, 32, 6⟩,
   ⟨0x24D3, 1, 1, 8171, 0, 32, 6⟩, ⟨0x24D4, 1, 1, 8199, 0, 32, 6⟩, ⟨0x24D5, 1, 1, 8258, 0, 32, 6⟩,
   ⟨0x24D6, 1, 1, 8273, 0, 32, 6⟩, ⟨0x24D7, 1, 1, 8309, 0, 32, 6⟩, ⟨0x24D8, 1, 1, 8336, 0, 32, 6⟩,
   ⟨0x24D9, 1, 1, 8363, 0, 32, 6⟩, ⟨0x24DA, 1, 1, 8388, 0, 32, 6⟩, ⟨0x24DB, 1, 1, 8406, 0, 32, 6⟩,
   ⟨0x24DC, 1, 1, 8457, 0, 32, 6⟩, ⟨0x24DD, 1, 1, 8472, 0, 32, 6⟩, ⟨0x24DE, 1, 1, 8508, 0, 32, 6⟩,
   ⟨0x24DF, 1, 1, 8555, 0, 32, 6⟩, ⟨0x24E0, 1, 1, 8576, 0, 32, 6⟩, ⟨0x24E1, 1, 1, 8595, 0, 32, 6⟩,
   ⟨0x24E2, 1, 1, 8658, 0, 32, 6⟩, ⟨0x24E3, 1, 1, 8695, 0, 32, 6⟩, ⟨0x24E4, 1, 1, 8727, 0, 32, 6⟩,
   ⟨0x24E5, 1, 1, 8775, 0, 32, 6⟩, ⟨0x24E6, 1, 1, 8793, 0, 32, 6⟩, ⟨0x24E7, 1, 1, 8804, 0, 32, 6⟩,
   ⟨0x24E8, 1, 1, 8816, 0, 32, 6⟩, ⟨0x24E9, 1, 1, 8838, 0, 32, 6⟩, ⟨0x24EA, 1, 1, 8088, 0, 32, 6⟩,
   ⟨0x24F5, 1, 9, 8089, 1, 32, 6⟩, ⟨0x24FF, 1, 1, 8088, 0, 32, 6⟩,
   ⟨0x2500, 1, 256, 2153, 1, 32, 2⟩, ⟨0x2600, 1, 48, 2611, 1, 32, 2⟩,
   ⟨0x2630, 1, 8, 4078, 1, 32, 2⟩, ⟨0x2638, 1, 53, 2659, 1, 32, 2⟩, ⟨0x266D, 1, 3, 4673, 1, 32, 2⟩,
   ⟨0x2670, 1, 26, 2712, 1, 32, 2⟩, ⟨0x268A, 1, 6, 4072, 1, 32, 2⟩,
   ⟨0x2690, 1, 112, 2738, 1, 32, 2⟩, ⟨0x2700, 1, 33, 2876, 1, 32, 2⟩,
   ⟨0x2721, 1, 71, 2911, 1, 32, 2⟩, ⟨0x2768, 1, 14, 862, 1, 32, 2⟩, ⟨0x2776, 1, 9, 8089, 1, 32, 6⟩,
   ⟨0x2780, 1, 9, 8089, 1, 32, 6⟩, ⟨0x278A, 1, 9, 8089, 1, 32, 6⟩, ⟨0x2794, 1, 49, 2982, 1, 32, 2⟩,
   ⟨0x27C5, 1, 2, 850, 1, 32, 2⟩, ⟨0x27C7, 1, 31, 3031, 1, 32, 2⟩, ⟨0x27E6, 1, 10, 852, 1, 32, 2⟩,
   ⟨0x27F0, 1, 16, 3062, 1, 32, 2⟩, ⟨0x2800, 1, 256, 3816, 1, 32, 2⟩,
   ⟨0x2900, 1, 131, 3078, 1, 32, 2⟩, ⟨0x2983, 1, 22, 828, 1, 32, 2⟩,
   ⟨0x2999, 1, 63, 3209, 1, 32, 2⟩, ⟨0x29D8, 1, 4, 918, 1, 32, 2⟩, ⟨0x29DC, 1, 32, 3272, 1, 32, 2⟩,
   ⟨0x29FC, 1, 2, 826, 1, 32, 2⟩, ⟨0x29FE, 1, 14, 3304, 1, 32, 2⟩,
   ⟨0x2A0D, 1, 103, 3318, 1, 32, 2⟩, ⟨0x2A77, 1, 101, 3421, 1, 32, 2⟩,
   ⟨0x2ADD, 1, 151, 3522, 1, 32, 2⟩, ⟨0x2B76, 1, 32, 3673, 1, 32, 2⟩,
   ⟨0x2B97, 1, 105, 3705, 1, 32, 2⟩]

def kanaRuns : List WeightRun :=
  [⟨0x3000, 1, 1, 521, 0, 32, 3⟩, ⟨0x3001, 1, 1, 566, 0, 32, 2⟩, ⟨0x3002, 1, 1, 658, 0, 32, 2⟩,
   ⟨0x3003, 1, 1, 961, 0, 32, 2⟩, ⟨0x3004, 1, 1, 7499, 0, 32, 2⟩, ⟨0x3005, 1, 1, 8023, 0, 32, 2⟩,
   ⟨0x3007, 1, 1, 8088, 0, 32, 2⟩, ⟨0x3008, 1, 10, 896, 1, 32, 2⟩, ⟨0x3012, 1, 2, 7500, 1, 32, 2⟩,
   ⟨0x3014, 1, 8, 906, 1, 32, 2⟩, ⟨0x301C, 1, 1, 542, 0, 32, 2⟩, ⟨0x301D, 1, 3, 803, 1, 32, 2⟩,
   ⟨0x3020, 1, 1, 7502, 0, 32, 2⟩, ⟨0x3021, 1, 9, 8089, 1, 32, 2⟩, ⟨0x302A, 1, 1, 0, 0, 257, 2⟩,
   ⟨0x302B, 1, 1, 0, 0, 258, 2⟩, ⟨0x302C, 1, 1, 0, 0, 259, 2⟩, ⟨0x302D, 1, 1, 0, 0, 260, 2⟩,
   ⟨0x302E, 1, 1, 0, 0, 261, 2⟩, ⟨0x302F, 1, 1, 0, 0, 262, 2⟩, ⟨0x3030, 1, 1, 543, 0, 32, 2⟩,
   ⟨0x3031, 2, 3, 8028, 1, 32, 2⟩, ⟨0x3036, 1, 1, 7500, 0, 32, 4⟩, ⟨0x3037, 1, 1, 7503, 0, 32, 2⟩,
   ⟨0x303B, 1, 1, 8024, 0, 32, 2⟩, ⟨0x303D, 1, 1, 962, 0, 32, 2⟩, ⟨0x303E, 1, 2, 7504, 1, 32, 2⟩,
   ⟨0x3041, 2, 3, 17114, 1, 32, 13⟩, ⟨0x3042, 2, 3, 17114, 1, 32, 14⟩,
   ⟨0x3047, 1, 1, 17118, 0, 32, 13⟩, ⟨0x3048, 1, 1, 17118, 0, 32, 14⟩,
   ⟨0x3049, 1, 1, 17119, 0, 32, 13⟩, ⟨0x304A, 1, 2, 17119, 1, 32, 14⟩,
   ⟨0x304D, 2, 11, 17121, 1, 32, 14⟩, ⟨0x3063, 1, 1, 17132, 0, 32, 13⟩,
   ⟨0x3064, 2, 4, 17132, 1, 32, 14⟩, ⟨0x306B, 1, 5, 17136, 1, 32, 14⟩,
   ⟨0x3072, 1, 1, 17141, 0, 32, 14⟩, ⟨0x3075, 1, 1, 17142, 0, 32, 14⟩,
   ⟨0x3078, 1, 1, 17143, 0, 32, 14⟩, ⟨0x307B, 1, 1, 17144, 0, 32, 14⟩,
   ⟨0x307E, 1, 5, 17145, 1, 32, 14⟩, ⟨0x3083, 2, 3, 17150, 1, 32, 13⟩,
   ⟨0x3084, 2, 3, 17150, 1, 32, 14⟩, ⟨0x3089, 1, 5, 17153, 1, 32, 14⟩,
   ⟨0x308E, 1, 1, 17158, 0, 32, 13⟩, ⟨0x308F, 1, 5, 17158, 1, 32, 14⟩,
   ⟨0x3095, 1, 1, 17120, 0, 32, 13⟩, ⟨0x3096, 1, 1, 17123, 0, 32, 13⟩, ⟨0x3099, 1, 1, 0, 0, 55, 2⟩,
   ⟨0x309A, 1, 1, 0, 0, 56, 2⟩, ⟨0x309B, 1, 2, 1219, 1, 32, 2⟩, ⟨0x309D, 1, 1, 8031, 0, 32, 2⟩,
   ⟨0x30A0, 1, 1, 544, 0, 32, 2⟩, ⟨0x30A1, 2, 3, 17114, 1, 32, 15⟩,
   ⟨0x30A2, 2, 3, 17114, 1, 32, 17⟩, ⟨0x30A7, 1, 1, 17118, 0, 32, 15⟩,
   ⟨0x30A8, 1, 1, 17118, 0, 32, 17⟩, ⟨0x30A9, 1, 1, 17119, 0, 32, 15⟩,
   ⟨0x30AA, 1, 2, 17119, 1, 32, 17⟩, ⟨0x30AD, 2, 11, 17121, 1, 32, 17⟩,
   ⟨0x30C3, 1, 1, 17132, 0, 32, 15⟩, ⟨0x30C4, 2, 4, 17132, 1, 32, 17⟩,
   ⟨0x30CB, 1, 5, 17136, 1, 32, 17⟩, ⟨0x30D2, 1, 1, 17141, 0, 32, 17⟩,
   ⟨0x30D5, 1, 1, 17142, 0, 32, 17⟩, ⟨0x30D8, 1, 1, 17143, 0, 32, 17⟩,
   ⟨0x30DB, 1, 1, 17144, 0, 32, 17⟩, ⟨0x30DE, 1, 5, 17145, 1, 32, 17⟩,
   ⟨0x30E3, 2, 3, 17150, 1, 32, 15⟩, ⟨0x30E4, 2, 3, 17150, 1, 32, 17⟩,
   ⟨0x30E9, 1, 5, 17153, 1, 32, 17⟩, ⟨0x30EE, 1, 1, 17158, 0, 32, 15⟩,
   ⟨0x30EF, 1, 5, 17158, 1, 32, 17⟩, ⟨0x30F5, 1, 1, 17120, 0, 32, 15⟩,
   ⟨0x30F6, 1, 1, 17123, 0, 32, 15⟩, ⟨0x30FB, 1, 1, 545, 0, 32, 2⟩, ⟨0x30FC, 1, 2, 8032, 1, 32, 2⟩,
   ⟨0xFE00, 1, 16, 0, 0, 0, 0⟩, ⟨0xFEFF, 1, 1, 0, 0, 0, 0⟩, ⟨0xFF01, 1, 1, 615, 0, 32, 3⟩,
   ⟨0xFF02, 1, 1, 797, 0, 32, 3⟩, ⟨0xFF03, 1, 1, 940, 0, 32, 3⟩, ⟨0xFF04, 1, 1, 8036, 0, 32, 3⟩,
   ⟨0xFF05, 1, 1, 941, 0, 32, 3⟩, ⟨0xFF06, 1, 1, 937, 0, 32, 3⟩, ⟨0xFF07, 1, 1, 790, 0, 32, 3⟩,
   ⟨0xFF08, 1, 2, 808, 1, 32, 3⟩, ⟨0xFF0A, 1, 1, 929, 0, 32, 3⟩, ⟨0xFF0B, 1, 1, 1638, 0, 32, 3⟩,
   ⟨0xFF0C, 1, 1, 547, 0, 32, 3⟩, ⟨0xFF0D, 1, 1, 525, 0, 32, 3⟩, ⟨0xFF0E, 1, 1, 638, 0, 32, 3⟩,
   ⟨0xFF0F, 1, 1, 934, 0, 32, 3⟩, ⟨0xFF10, 1, 10, 8088, 1, 32, 3⟩, ⟨0xFF1A, 1, 1, 576, 0, 32, 3⟩,
   ⟨0xFF1B, 1, 1, 570, 0, 32, 3⟩, ⟨0xFF1C, 1, 3, 1642, 1, 32, 3⟩, ⟨0xFF1F, 1, 1, 621, 0, 32, 3⟩,
   ⟨0xFF20, 1, 1, 928, 0, 32, 3⟩, ⟨0xFF21, 1, 1, 8098, 0, 32, 9⟩, ⟨0xFF22, 1, 1, 8124, 0, 32, 9⟩,
   ⟨0xFF23, 1, 1, 8150, 0, 32, 9⟩, ⟨0xFF24, 1, 1, 8171, 0, 32, 9⟩, ⟨0xFF25, 1, 1, 8199, 0, 32, 9⟩,
   ⟨0xFF26, 1, 1, 8258, 0, 32, 9⟩, ⟨0xFF27, 1, 1, 8273, 0, 32, 9⟩, ⟨0xFF28, 1, 1, 8309, 0, 32, 9⟩,
   ⟨0xFF29, 1, 1, 8336, 0, 32, 9⟩, ⟨0xFF2A, 1, 1, 8363, 0, 32, 9⟩, ⟨0xFF2B, 1, 1, 8388, 0, 32, 9⟩,
   ⟨0xFF2C, 1, 1, 8406, 0, 32, 9⟩, ⟨0xFF2D, 1, 1, 8457, 0, 32, 9⟩, ⟨0xFF2E, 1, 1, 8472, 0, 32, 9⟩,
   ⟨0xFF2F, 1, 1, 8508, 0, 32, 9⟩, ⟨0xFF30, 1, 1, 8555, 0, 32, 9⟩, ⟨0xFF31, 1, 1, 8576, 0, 32, 9⟩,
   ⟨0xFF32, 1, 1, 8595, 0, 32, 9⟩, ⟨0xFF33, 1, 1, 8658, 0, 32, 9⟩, ⟨0xFF34, 1, 1, 8695, 0, 32, 9⟩,
   ⟨0xFF35, 1, 1, 8727, 0, 32, 9⟩, ⟨0xFF36, 1, 1, 8775, 0, 32, 9⟩, ⟨0xFF37, 1, 1, 8793, 0, 32, 9⟩,
   ⟨0xFF38, 1, 1, 8804, 0, 32, 9⟩, ⟨0xFF39, 1, 1, 8816, 0, 32, 9⟩, ⟨0xFF3A, 1, 1, 8838, 0, 32, 9⟩,
   ⟨0xFF3B, 1, 1, 810, 0, 32, 3⟩, ⟨0xFF3C, 1, 1, 935, 0, 32, 3⟩, ⟨0xFF3D, 1, 1, 811, 0, 32, 3⟩,
   ⟨0xFF3E, 1, 1, 1207, 0, 32, 3⟩, ⟨0xFF3F, 1, 1, 523, 0, 32, 3⟩, ⟨0xFF40, 1, 1, 1204, 0, 32, 3⟩,
   ⟨0xFF41, 1, 1, 8098, 0, 32, 3⟩, ⟨0xFF42, 1, 1, 8124, 0, 32, 3⟩, ⟨0xFF43, 1, 1, 8150, 0, 32, 3⟩,
   ⟨0xFF44, 1, 1, 8171, 0, 32, 3⟩, ⟨0xFF45, 1, 1, 8199, 0, 32, 3⟩, ⟨0xFF46, 1, 1, 8258, 0, 32, 3⟩,
   ⟨0xFF47, 1, 1, 8273, 0, 32, 3⟩, ⟨0xFF48, 1, 1, 8309, 0, 32, 3⟩, ⟨0xFF49, 1, 1, 8336, 0, 32, 3⟩,
   ⟨0xFF4A, 1, 1, 8363, 0, 32, 3⟩, ⟨0xFF4B, 1, 1, 8388, 0, 32, 3⟩, ⟨0xFF4C, 1, 1, 8406, 0, 32, 3⟩,
   ⟨0xFF4D, 1, 1, 8457, 0, 32, 3⟩, ⟨0xFF4E, 1, 1, 8472, 0, 32, 3⟩, ⟨0xFF4F, 1, 1, 8508, 0, 32, 3⟩,
   ⟨0xFF50, 1, 1, 8555, 0, 32, 3⟩, ⟨0xFF51, 1, 1, 8576, 0, 32, 3⟩, ⟨0xFF52, 1, 1, 8595, 0, 32, 3⟩,
   ⟨0xFF53, 1, 1, 8658, 0, 32, 3⟩, ⟨0xFF54, 1, 1, 8695, 0, 32, 3⟩, ⟨0xFF55, 1, 1, 8727, 0, 32, 3⟩,
   ⟨0xFF56, 1, 1, 8775, 0, 32, 3⟩, ⟨0xFF57, 1, 1, 8793, 0, 32, 3⟩, ⟨0xFF58, 1, 1, 8804, 0, 32, 3⟩,
   ⟨0xFF59, 1, 1, 8816, 0, 32, 3⟩, ⟨0xFF5A, 1, 1, 8838, 0, 32, 3⟩, ⟨0xFF5B, 1, 1, 812, 0, 32, 3⟩,
   ⟨0xFF5C, 1, 1, 1646, 0, 32, 3⟩, ⟨0xFF5D, 1, 1, 813, 0, 32, 3⟩, ⟨0xFF5E, 1, 1, 1648, 0, 32, 3⟩,
   ⟨0xFF5F, 1, 2, 830, 1, 32, 3⟩, ⟨0xFF61, 1, 1, 658, 0, 32, 18⟩, ⟨0xFF62, 1, 2, 900, 1, 32, 18⟩,
   ⟨0xFF64, 1, 1, 566, 0, 32, 18⟩, ⟨0xFF65, 1, 1, 545, 0, 32, 18⟩,
   ⟨0xFF66, 1, 1, 17161, 0, 32, 18⟩, ⟨0xFF67, 1, 3, 17114, 1, 32, 16⟩,
   ⟨0xFF6A, 1, 2, 17118, 1, 32, 16⟩, ⟨0xFF6C, 1, 3, 17150, 1, 32, 16⟩,
   ⟨0xFF6F, 1, 1, 17132, 0, 32, 16⟩, ⟨0xFF70, 1, 1, 8032, 0, 32, 18⟩,
   ⟨0xFF71, 1, 3, 17114, 1, 32, 18⟩, ⟨0xFF74, 1, 41, 17118, 1, 32, 18⟩,
   ⟨0xFF9D, 1, 1, 17162, 0, 32, 18⟩, ⟨0xFF9E, 1, 1, 0, 0, 55, 18⟩, ⟨0xFF9F, 1, 1, 0, 0, 56, 18⟩,
   ⟨0xFFFC, 1, 1, 7509, 0, 32, 2⟩, ⟨0xFFFD, 1, 1, 65533, 0, 32, 2⟩]

def pictureRuns : List WeightRun :=
  [⟨0x1F000, 1, 44, 4887, 1, 32, 2⟩, ⟨0x1F030, 1, 100, 4931, 1, 32, 2⟩,
   ⟨0x1F0A0, 1, 15, 5031, 1, 32, 2⟩, ⟨0x1F0B1, 1, 15, 5046, 1, 32, 2⟩,
   ⟨0x1F0C1, 1, 15, 5061, 1, 32, 2⟩, ⟨0x1F0D1, 1, 37, 5076, 1, 32, 2⟩,
   ⟨0x1F10B, 1, 2, 8088, 0, 32, 6⟩, ⟨0x1F10D, 1, 3, 5211, 1, 32, 2⟩,
   ⟨0x1F12B, 1, 1, 8150, 0, 32, 12⟩, ⟨0x1F12C, 1, 1, 8595, 0, 32, 12⟩,
   ⟨0x1F12F, 1, 1, 1491, 0, 32, 2⟩, ⟨0x1F130, 1, 1, 8098, 0, 32, 29⟩,
   ⟨0x1F131, 1, 1, 8124, 0, 32, 29⟩, ⟨0x1F132, 1, 1, 8150, 0, 32, 29⟩,
   ⟨0x1F133, 1, 1, 8171, 0, 32, 29⟩, ⟨0x1F134, 1, 1, 8199, 0, 32, 29⟩,
   ⟨0x1F135, 1, 1, 8258, 0, 32, 29⟩, ⟨0x1F136, 1, 1, 8273, 0, 32, 29⟩,
   ⟨0x1F137, 1, 1, 8309, 0, 32, 29⟩, ⟨0x1F138, 1, 1, 8336, 0, 32, 29⟩,
   ⟨0x1F139, 1, 1, 8363, 0, 32, 29⟩, ⟨0x1F13A, 1, 1, 8388, 0, 32, 29⟩,
   ⟨0x1F13B, 1, 1, 8406, 0, 32, 29⟩, ⟨0x1F13C, 1, 1, 8457, 0, 32, 29⟩,
   ⟨0x1F13D, 1, 1, 8472, 0, 32, 29⟩, ⟨0x1F13E, 1, 1, 8508, 0, 32, 29⟩,
   ⟨0x1F13F, 1, 1, 8555, 0, 32, 29⟩, ⟨0x1F140, 1, 1, 8576, 0, 32, 29⟩,
   ⟨0x1F141, 1, 1, 8595, 0, 32, 29⟩, ⟨0x1F142, 1, 1, 8658, 0, 32, 29⟩,
   ⟨0x1F143, 1, 1, 8695, 0, 32, 29⟩, ⟨0x1F144, 1, 1, 8727, 0, 32, 29⟩,
   ⟨0x1F145, 1, 1, 8775, 0, 32, 29⟩, ⟨0x1F146, 1, 1, 8793, 0, 32, 29⟩,
   ⟨0x1F147, 1, 1, 8804, 0, 32, 29⟩, ⟨0x1F148, 1, 1, 8816, 0, 32, 29⟩,
   ⟨0x1F149, 1, 1, 8838, 0, 32, 29⟩, ⟨0x1F150, 1, 1, 8098, 0, 32, 12⟩,
   ⟨0x1F151, 1, 1, 8124, 0, 32, 12⟩, ⟨0x1F152, 1, 1, 8150, 0, 32, 12⟩,
   ⟨0x1F153, 1, 1, 8171, 0, 32, 12⟩, ⟨0x1F154, 1, 1, 8199, 0, 32, 12⟩,
   ⟨0x1F155, 1, 1, 8258, 0, 32, 12⟩, ⟨0x1F156, 1, 1, 8273, 0, 32, 12⟩,
   ⟨0x1F157, 1, 1, 8309, 0, 32, 12⟩, ⟨0x1F158, 1, 1, 8336, 0, 32, 12⟩,
   ⟨0x1F159, 1, 1, 8363, 0, 32, 12⟩, ⟨0x1F15A, 1, 1, 8388, 0, 32, 12⟩,
   ⟨0x1F15B, 1, 1, 8406, 0, 32, 12⟩, ⟨0x1F15C, 1, 1, 8457, 0, 32, 12⟩,
   ⟨0x1F15D, 1, 1, 8472, 0, 32, 12⟩, ⟨0x1F15E, 1, 1, 8508, 0, 32, 12⟩,
   ⟨0x1F15F, 1, 1, 8555, 0, 32, 12⟩, ⟨0x1F160, 1, 1, 8576, 0, 32, 12⟩,
   ⟨0x1F161, 1, 1, 8595, 0, 32, 12⟩, ⟨0x1F162, 1, 1, 8658, 0, 32, 12⟩,
   ⟨0x1F163, 1, 1, 8695, 0, 32, 12⟩, ⟨0x1F164, 1, 1, 8727, 0, 32, 12⟩,
   ⟨0x1F165, 1, 1, 8775, 0, 32, 12⟩, ⟨0x1F166, 1, 1, 8793, 0, 32, 12⟩,
   ⟨0x1F167, 1, 1, 8804, 0, 32, 12⟩, ⟨0x1F168, 1, 1, 8816, 0, 32, 12⟩,
   ⟨0x1F169, 1, 1, 8838, 0, 32, 12⟩, ⟨0x1F16D, 1, 3, 5214, 1, 32, 2⟩,
   ⟨0x1F170, 1, 1, 8098, 0, 32, 29⟩, ⟨0x1F171, 1, 1, 8124, 0, 32, 29⟩,
   ⟨0x1F172, 1, 1, 8150, 0, 32, 29⟩, ⟨0x1F173, 1, 1, 8171, 0, 32, 29⟩,
   ⟨0x1F174, 1, 1, 8199, 0, 32, 29⟩, ⟨0x1F175, 1, 1, 8258, 0, 32, 29⟩,
   ⟨0x1F176, 1, 1, 8273, 0, 32, 29⟩, ⟨0x1F177, 1, 1, 8309, 0, 32, 29⟩,
   ⟨0x1F178, 1, 1, 8336, 0, 32, 29⟩, ⟨0x1F179, 1, 1, 8363, 0, 32, 29⟩,
   ⟨0x1F17A, 1, 1, 8388, 0, 32, 29⟩, ⟨0x1F17B, 1, 1, 8406, 0, 32, 29⟩,
   ⟨0x1F17C, 1, 1, 8457, 0, 32, 29⟩, ⟨0x1F17D, 1, 1, 8472, 0, 32, 29⟩,
   ⟨0x1F17E, 1, 1, 8508, 0, 32, 29⟩, ⟨0x1F17F, 1, 1, 8555, 0, 32, 29⟩,
   ⟨0x1F180, 1, 1, 8576, 0, 32, 29⟩, ⟨0x1F181, 1, 1, 8595, 0, 32, 29⟩,
   ⟨0x1F182, 1, 1, 8658, 0, 32, 29⟩, ⟨0x1F183, 1, 1, 8695, 0, 32, 29⟩,
   ⟨0x1F184, 1, 1, 8727, 0, 32, 29⟩, ⟨0x1F185, 1, 1, 8775, 0, 32, 29⟩,
   ⟨0x1F186, 1, 1, 8793, 0, 32, 29⟩, ⟨0x1F187, 1, 1, 8804, 0, 32, 29⟩,
   ⟨0x1F188, 1, 1, 8816, 0, 32, 29⟩, ⟨0x1F189, 1, 1, 8838, 0, 32, 29⟩,
   ⟨0x1F18A, 1, 1, 8555, 0, 32, 29⟩, ⟨0x1F1A5, 1, 1, 8171, 0, 32, 28⟩,
   ⟨0x1F1AD, 1, 1, 1493, 0, 32, 2⟩, ⟨0x1F1E6, 1, 26, 2850, 1, 32, 2⟩,
   ⟨0x1F202, 1, 1, 17125, 0, 32, 28⟩, ⟨0x1F260, 1, 6, 5217, 1, 32, 2⟩,
   ⟨0x1F300, 1, 768, 5223, 1, 32, 2⟩, ⟨0x1F600, 1, 216, 6302, 1, 32, 2⟩,
   ⟨0x1F6E0, 1, 13, 6518, 1, 32, 2⟩, ⟨0x1F6F0, 1, 13, 6531, 1, 32, 2⟩,
   ⟨0x1F700, 1, 116, 6544, 1, 32, 2⟩, ⟨0x1F780, 1, 89, 6660, 1, 32, 2⟩,
   ⟨0x1F7E0, 1, 12, 6749, 1, 32, 2⟩, ⟨0x1F800, 1, 12, 6761, 1, 32, 2⟩,
   ⟨0x1F810, 1, 56, 6773, 1, 32, 2⟩, ⟨0x1F850, 1, 10, 6829, 1, 32, 2⟩,
   ⟨0x1F860, 1, 40, 6839, 1, 32, 2⟩, ⟨0x1F890, 1, 30, 6879, 1, 32, 2⟩,
   ⟨0x1F8B0, 1, 2, 6909, 1, 32, 2⟩, ⟨0x1F900, 1, 121, 5991, 1, 32, 2⟩,
   ⟨0x1F97A, 1, 82, 6112, 1, 32, 2⟩, ⟨0x1F9CD, 1, 51, 6194, 1, 32, 2⟩,
   ⟨0x1FA00, 1, 84, 5113, 1, 32, 2⟩, ⟨0x1FA60, 1, 14, 5197, 1, 32, 2⟩,
   ⟨0x1FA70, 1, 5, 6245, 1, 32, 2⟩, ⟨0x1FA78, 1, 3, 6250, 1, 32, 2⟩,
   ⟨0x1FA80, 1, 7, 6253, 1, 32, 2⟩, ⟨0x1FA90, 1, 25, 6260, 1, 32, 2⟩,
   ⟨0x1FAB0, 1, 7, 6285, 1, 32, 2⟩, ⟨0x1FAC0, 1, 3, 6292, 1, 32, 2⟩,
   ⟨0x1FAD0, 1, 7, 6295, 1, 32, 2⟩]

def weightRuns : List WeightRun :=
  latinRuns ++ greekRuns ++ cyrillicRuns ++ signRuns ++ kanaRuns ++ pictureRuns

end SourceBook.Text.Collation
