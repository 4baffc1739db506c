import SuggestionReview.Basic
import SuggestionReview.Text.CharWidth

namespace SuggestionReview.Text

def colorRanges : CodeRanges := #[
  (0x231A, 0x231B), (0x23E9, 0x23EC), (0x23F0, 0x23F0), (0x23F3, 0x23F3), (0x25FD, 0x25FE),
  (0x2614, 0x2615), (0x2648, 0x2653), (0x267F, 0x267F), (0x2693, 0x2693), (0x26A1, 0x26A1),
  (0x26AA, 0x26AB), (0x26BD, 0x26BE), (0x26C4, 0x26C5), (0x26CE, 0x26CE), (0x26D4, 0x26D4),
  (0x26EA, 0x26EA), (0x26F2, 0x26F3), (0x26F5, 0x26F5), (0x26FA, 0x26FA), (0x26FD, 0x26FD),
  (0x2705, 0x2705), (0x270A, 0x270B), (0x2728, 0x2728), (0x274C, 0x274C), (0x274E, 0x274E),
  (0x2753, 0x2755), (0x2757, 0x2757), (0x2795, 0x2797), (0x27B0, 0x27B0), (0x27BF, 0x27BF),
  (0x2B1B, 0x2B1C), (0x2B50, 0x2B50), (0x2B55, 0x2B55), (0x1F004, 0x1F004), (0x1F0CF, 0x1F0CF),
  (0x1F18E, 0x1F18E), (0x1F191, 0x1F19A), (0x1F201, 0x1F201), (0x1F21A, 0x1F21A),
  (0x1F22F, 0x1F22F), (0x1F232, 0x1F236), (0x1F238, 0x1F23A), (0x1F250, 0x1F251),
  (0x1F300, 0x1F320), (0x1F32D, 0x1F335), (0x1F337, 0x1F37C), (0x1F37E, 0x1F393),
  (0x1F3A0, 0x1F3CA), (0x1F3CF, 0x1F3D3), (0x1F3E0, 0x1F3F0), (0x1F3F4, 0x1F3F4),
  (0x1F3F8, 0x1F3FA), (0x1F400, 0x1F43E), (0x1F440, 0x1F440), (0x1F442, 0x1F4FC),
  (0x1F4FF, 0x1F53D), (0x1F54B, 0x1F54E), (0x1F550, 0x1F567), (0x1F57A, 0x1F57A),
  (0x1F595, 0x1F596), (0x1F5A4, 0x1F5A4), (0x1F5FB, 0x1F64F), (0x1F680, 0x1F6C5),
  (0x1F6CC, 0x1F6CC), (0x1F6D0, 0x1F6D2), (0x1F6D5, 0x1F6D7), (0x1F6DC, 0x1F6DF),
  (0x1F6EB, 0x1F6EC), (0x1F6F4, 0x1F6FC), (0x1F7E0, 0x1F7EB), (0x1F7F0, 0x1F7F0),
  (0x1F90C, 0x1F93A), (0x1F93C, 0x1F945), (0x1F947, 0x1F9FF), (0x1FA70, 0x1FA7C),
  (0x1FA80, 0x1FA88), (0x1FA90, 0x1FABD), (0x1FABF, 0x1FAC5), (0x1FACE, 0x1FADB),
  (0x1FAE0, 0x1FAE8), (0x1FAF0, 0x1FAF8)
]

def selectableRanges : CodeRanges := #[
  (0x23, 0x23), (0x2A, 0x2A), (0x30, 0x39), (0xA9, 0xA9), (0xAE, 0xAE), (0x203C, 0x203C),
  (0x2049, 0x2049), (0x2122, 0x2122), (0x2139, 0x2139), (0x2194, 0x2199), (0x21A9, 0x21AA),
  (0x231A, 0x231B), (0x2328, 0x2328), (0x23CF, 0x23CF), (0x23E9, 0x23EA), (0x23ED, 0x23EF),
  (0x23F1, 0x23F3), (0x23F8, 0x23FA), (0x24C2, 0x24C2), (0x25AA, 0x25AB), (0x25B6, 0x25B6),
  (0x25C0, 0x25C0), (0x25FB, 0x25FE), (0x2600, 0x2604), (0x260E, 0x260E), (0x2611, 0x2611),
  (0x2614, 0x2615), (0x2618, 0x2618), (0x261D, 0x261D), (0x2620, 0x2620), (0x2622, 0x2623),
  (0x2626, 0x2626), (0x262A, 0x262A), (0x262E, 0x262F), (0x2638, 0x263A), (0x2640, 0x2640),
  (0x2642, 0x2642), (0x2648, 0x2653), (0x265F, 0x2660), (0x2663, 0x2663), (0x2665, 0x2666),
  (0x2668, 0x2668), (0x267B, 0x267B), (0x267E, 0x267F), (0x2692, 0x2697), (0x2699, 0x2699),
  (0x269B, 0x269C), (0x26A0, 0x26A1), (0x26A7, 0x26A7), (0x26AA, 0x26AB), (0x26B0, 0x26B1),
  (0x26BD, 0x26BE), (0x26C4, 0x26C5), (0x26C8, 0x26C8), (0x26CF, 0x26CF), (0x26D1, 0x26D1),
  (0x26D3, 0x26D4), (0x26E9, 0x26EA), (0x26F0, 0x26F5), (0x26F7, 0x26FA), (0x26FD, 0x26FD),
  (0x2702, 0x2702), (0x2708, 0x2709), (0x270C, 0x270D), (0x270F, 0x270F), (0x2712, 0x2712),
  (0x2714, 0x2714), (0x2716, 0x2716), (0x271D, 0x271D), (0x2721, 0x2721), (0x2733, 0x2734),
  (0x2744, 0x2744), (0x2747, 0x2747), (0x2753, 0x2753), (0x2757, 0x2757), (0x2763, 0x2764),
  (0x27A1, 0x27A1), (0x2934, 0x2935), (0x2B05, 0x2B07), (0x2B1B, 0x2B1C), (0x2B50, 0x2B50),
  (0x2B55, 0x2B55), (0x3030, 0x3030), (0x303D, 0x303D), (0x3297, 0x3297), (0x3299, 0x3299),
  (0x1F004, 0x1F004), (0x1F170, 0x1F171), (0x1F17E, 0x1F17F), (0x1F202, 0x1F202),
  (0x1F21A, 0x1F21A), (0x1F22F, 0x1F22F), (0x1F237, 0x1F237), (0x1F30D, 0x1F30F),
  (0x1F315, 0x1F315), (0x1F31C, 0x1F31C), (0x1F321, 0x1F321), (0x1F324, 0x1F32C),
  (0x1F336, 0x1F336), (0x1F378, 0x1F378), (0x1F37D, 0x1F37D), (0x1F393, 0x1F393),
  (0x1F396, 0x1F397), (0x1F399, 0x1F39B), (0x1F39E, 0x1F39F), (0x1F3A7, 0x1F3A7),
  (0x1F3AC, 0x1F3AE), (0x1F3C2, 0x1F3C2), (0x1F3C4, 0x1F3C4), (0x1F3C6, 0x1F3C6),
  (0x1F3CA, 0x1F3CE), (0x1F3D4, 0x1F3E0), (0x1F3ED, 0x1F3ED), (0x1F3F3, 0x1F3F3),
  (0x1F3F5, 0x1F3F5), (0x1F3F7, 0x1F3F7), (0x1F408, 0x1F408), (0x1F415, 0x1F415),
  (0x1F41F, 0x1F41F), (0x1F426, 0x1F426), (0x1F43F, 0x1F43F), (0x1F441, 0x1F442),
  (0x1F446, 0x1F449), (0x1F44D, 0x1F44E), (0x1F453, 0x1F453), (0x1F46A, 0x1F46A),
  (0x1F47D, 0x1F47D), (0x1F4A3, 0x1F4A3), (0x1F4B0, 0x1F4B0), (0x1F4B3, 0x1F4B3),
  (0x1F4BB, 0x1F4BB), (0x1F4BF, 0x1F4BF), (0x1F4CB, 0x1F4CB), (0x1F4DA, 0x1F4DA),
  (0x1F4DF, 0x1F4DF), (0x1F4E4, 0x1F4E6), (0x1F4EA, 0x1F4ED), (0x1F4F7, 0x1F4F7),
  (0x1F4F9, 0x1F4FB), (0x1F4FD, 0x1F4FD), (0x1F508, 0x1F508), (0x1F50D, 0x1F50D),
  (0x1F512, 0x1F513), (0x1F549, 0x1F54A), (0x1F550, 0x1F567), (0x1F56F, 0x1F570),
  (0x1F573, 0x1F579), (0x1F587, 0x1F587), (0x1F58A, 0x1F58D), (0x1F590, 0x1F590),
  (0x1F5A5, 0x1F5A5), (0x1F5A8, 0x1F5A8), (0x1F5B1, 0x1F5B2), (0x1F5BC, 0x1F5BC),
  (0x1F5C2, 0x1F5C4), (0x1F5D1, 0x1F5D3), (0x1F5DC, 0x1F5DE), (0x1F5E1, 0x1F5E1),
  (0x1F5E3, 0x1F5E3), (0x1F5E8, 0x1F5E8), (0x1F5EF, 0x1F5EF), (0x1F5F3, 0x1F5F3),
  (0x1F5FA, 0x1F5FA), (0x1F610, 0x1F610), (0x1F687, 0x1F687), (0x1F68D, 0x1F68D),
  (0x1F691, 0x1F691), (0x1F694, 0x1F694), (0x1F698, 0x1F698), (0x1F6AD, 0x1F6AD),
  (0x1F6B2, 0x1F6B2), (0x1F6B9, 0x1F6BA), (0x1F6BC, 0x1F6BC), (0x1F6CB, 0x1F6CB),
  (0x1F6CD, 0x1F6CF), (0x1F6E0, 0x1F6E5), (0x1F6E9, 0x1F6E9), (0x1F6F0, 0x1F6F0),
  (0x1F6F3, 0x1F6F3)
]

/-- Pictographs shown in color by themselves that take one column when a variation selector asks for
text. -/
def textableRanges : CodeRanges := #[
  (0x231A, 0x231B), (0x23E9, 0x23EA), (0x23F3, 0x23F3), (0x25FD, 0x25FE), (0x2614, 0x2615),
  (0x2648, 0x2653), (0x267F, 0x267F), (0x2693, 0x2693), (0x26A1, 0x26A1), (0x26AA, 0x26AB),
  (0x26BD, 0x26BE), (0x26C4, 0x26C5), (0x26D4, 0x26D4), (0x26EA, 0x26EA), (0x26F2, 0x26F3),
  (0x26F5, 0x26F5), (0x26FA, 0x26FA), (0x26FD, 0x26FD), (0x2753, 0x2753), (0x2757, 0x2757),
  (0x2B1B, 0x2B1C), (0x2B50, 0x2B50), (0x2B55, 0x2B55), (0x1F004, 0x1F004), (0x1F30D, 0x1F30F),
  (0x1F315, 0x1F315), (0x1F31C, 0x1F31C), (0x1F378, 0x1F378), (0x1F393, 0x1F393),
  (0x1F3A7, 0x1F3A7), (0x1F3AC, 0x1F3AE), (0x1F3C2, 0x1F3C2), (0x1F3C4, 0x1F3C4),
  (0x1F3C6, 0x1F3C6), (0x1F3CA, 0x1F3CA), (0x1F3E0, 0x1F3E0), (0x1F3ED, 0x1F3ED),
  (0x1F408, 0x1F408), (0x1F415, 0x1F415), (0x1F41F, 0x1F41F), (0x1F426, 0x1F426),
  (0x1F442, 0x1F442), (0x1F446, 0x1F449), (0x1F44D, 0x1F44E), (0x1F453, 0x1F453),
  (0x1F46A, 0x1F46A), (0x1F47D, 0x1F47D), (0x1F4A3, 0x1F4A3), (0x1F4B0, 0x1F4B0),
  (0x1F4B3, 0x1F4B3), (0x1F4BB, 0x1F4BB), (0x1F4BF, 0x1F4BF), (0x1F4CB, 0x1F4CB),
  (0x1F4DA, 0x1F4DA), (0x1F4DF, 0x1F4DF), (0x1F4E4, 0x1F4E6), (0x1F4EA, 0x1F4ED),
  (0x1F4F7, 0x1F4F7), (0x1F4F9, 0x1F4FB), (0x1F508, 0x1F508), (0x1F50D, 0x1F50D),
  (0x1F512, 0x1F513), (0x1F550, 0x1F567), (0x1F610, 0x1F610), (0x1F687, 0x1F687),
  (0x1F68D, 0x1F68D), (0x1F691, 0x1F691), (0x1F694, 0x1F694), (0x1F698, 0x1F698),
  (0x1F6AD, 0x1F6AD), (0x1F6B2, 0x1F6B2), (0x1F6B9, 0x1F6BA), (0x1F6BC, 0x1F6BC)
]

def toneableRanges : CodeRanges := #[
  (0x261D, 0x261D), (0x26F9, 0x26F9), (0x270A, 0x270D), (0x1F385, 0x1F385), (0x1F3C2, 0x1F3C4),
  (0x1F3C7, 0x1F3C7), (0x1F3CA, 0x1F3CC), (0x1F442, 0x1F443), (0x1F446, 0x1F450),
  (0x1F466, 0x1F478), (0x1F47C, 0x1F47C), (0x1F481, 0x1F483), (0x1F485, 0x1F487),
  (0x1F48F, 0x1F48F), (0x1F491, 0x1F491), (0x1F4AA, 0x1F4AA), (0x1F574, 0x1F575),
  (0x1F57A, 0x1F57A), (0x1F590, 0x1F590), (0x1F595, 0x1F596), (0x1F645, 0x1F647),
  (0x1F64B, 0x1F64F), (0x1F6A3, 0x1F6A3), (0x1F6B4, 0x1F6B6), (0x1F6C0, 0x1F6C0),
  (0x1F6CC, 0x1F6CC), (0x1F90C, 0x1F90C), (0x1F90F, 0x1F90F), (0x1F918, 0x1F91F),
  (0x1F926, 0x1F926), (0x1F930, 0x1F939), (0x1F93C, 0x1F93E), (0x1F977, 0x1F977),
  (0x1F9B5, 0x1F9B6), (0x1F9B8, 0x1F9B9), (0x1F9BB, 0x1F9BB), (0x1F9CD, 0x1F9CF),
  (0x1F9D1, 0x1F9DD), (0x1FAC3, 0x1FAC5), (0x1FAF0, 0x1FAF8)
]

def separatingRanges : CodeRanges := #[
  (0x605, 0x605), (0x890, 0x891), (0x8E2, 0x8E2), (0x9BE, 0x9BE), (0x9D7, 0x9D7), (0xB3E, 0xB3E),
  (0xB57, 0xB57), (0xBBE, 0xBBE), (0xBD7, 0xBD7), (0xCC0, 0xCC0), (0xCC2, 0xCC2), (0xCC7, 0xCC8),
  (0xCCA, 0xCCB), (0xCD5, 0xCD6), (0xD3E, 0xD3E), (0xD4E, 0xD4E), (0xD57, 0xD57), (0xDCF, 0xDCF),
  (0xDDF, 0xDDF), (0x1160, 0x11FF), (0x180E, 0x180E), (0x1B35, 0x1B35), (0x1B3B, 0x1B3B),
  (0x1B3D, 0x1B3D), (0x1B43, 0x1B43), (0x200C, 0x200D), (0x2065, 0x2069), (0x302E, 0x302F),
  (0x3164, 0x3164), (0xA8FA, 0xA8FA), (0xD7B0, 0xD7C6), (0xD7CB, 0xD7FB), (0xFF9E, 0xFFA0),
  (0xFFF0, 0xFFF8), (0x111C2, 0x111C3), (0x1133E, 0x1133E), (0x11357, 0x11357),
  (0x114B0, 0x114B0), (0x114BD, 0x114BD), (0x115AF, 0x115AF), (0x11930, 0x11930),
  (0x1193F, 0x1193F), (0x11941, 0x11941), (0x11A3A, 0x11A3A), (0x11A84, 0x11A89),
  (0x11D46, 0x11D46), (0x11F02, 0x11F02), (0x1D165, 0x1D165), (0x1D16E, 0x1D172),
  (0xE0000, 0xE0000), (0xE0002, 0xE001F), (0xE0080, 0xE00FF), (0xE01F0, 0xE0FFF)
]

/-- Letters that merge with a letter in front of them. -/
inductive MergingLetter where
  | alef
  | lamed
  | buginese
  | bugineseVowel
  | tifinagh
  | tifinaghJoined
  | lisu
  | orkhon
  | khmer
deriving DecidableEq

inductive Sequel where
  | plain
  | lineFeed
  | tone
  | regional (several : Bool)
  | pictograph
  | joined
  | joinedKeycap
  | joinedRegional
  | joinedRegionals (even : Bool)
  /-- The end of the tags of a flag with so many tag letters and tag digits, a joiner and a
  pictograph. -/
  | tags (letters digits : Nat)
  /-- A letter that merges, and whether there is a joiner in front of it. -/
  | merging (letter : MergingLetter) (joined : Bool)
deriving DecidableEq

/-- What of the characters behind one decides about its columns. -/
structure WidthContext where
  sequel : Sequel
  /-- Whether a variation selector in front of the sequel asks for color. -/
  color : Bool
  /-- Whether a variation selector in front of the sequel asks for text. -/
  text : Bool
deriving DecidableEq

namespace WidthContext

def start : WidthContext := ⟨.plain, false, false⟩

def colorSelector : Char := Char.ofNat 0xFE0F

def textSelector : Char := Char.ofNat 0xFE0E

def joiner : Char := Char.ofNat 0x200D

def of (s : Sequel) : WidthContext := ⟨s, false, false⟩

def withColor (f : WidthContext) : WidthContext :=
  match f.sequel with
  | .merging .. => { f with color := true }
  | .joined | .joinedKeycap => { f with color := true }
  | _ => ⟨.plain, true, false⟩

def withText (f : WidthContext) : WidthContext :=
  match f.sequel with
  | .merging .. => { f with text := true }
  | _ => ⟨.plain, false, true⟩

def withoutColor (f : WidthContext) : WidthContext :=
  if f.color then
    match f.sequel with
    | .merging .. => { f with color := false }
    | _ => start
  else f

def sequelOf (c : Char) : Sequel :=
  let n := c.toNat
  if n < 0xA0 then if c = '\n' then .lineFeed else .plain
  else if n = 0x5DC then .merging .lamed false
  else if alefs.contains n then .merging .alef false
  else if isKhmer n then .merging .khmer false
  else if n = 0x1A10 then .merging .buginese false
  else if isTifinagh n then .merging .tifinagh false
  else if n = 0xA4FC || n = 0xA4FD then .merging .lisu false
  else if n = 0x10C03 then .merging .orkhon false
  else if isRegional n then .regional false
  else if isTone n then .tone
  else if colorRanges.contains c then .pictograph
  else .plain
where
  alefs : List Nat :=
    [0x622, 0x623, 0x625, 0x627, 0x671, 0x672, 0x673, 0x675, 0x773, 0x774] ++
      List.range' 0x870 19
  unmergingKhmer : List Nat :=
    [0x1783, 0x1788, 0x178D, 0x1794, 0x1799, 0x179A, 0x179E, 0x179F, 0x17A1, 0x17A3, 0x17A4, 0x17A5,
      0x17A6, 0x17A8, 0x17A9, 0x17AA, 0x17AD, 0x17AE]
  isKhmer (n : Nat) : Bool := 0x1780 ≤ n && n ≤ 0x17AF && !unmergingKhmer.contains n
  isTifinagh (n : Nat) : Bool := 0x2D31 ≤ n && n ≤ 0x2D65 || n = 0x2D6F
  isRegional (n : Nat) : Bool := 0x1F1E6 ≤ n && n ≤ 0x1F1FF
  isTone (n : Nat) : Bool := 0x1F3FB ≤ n && n ≤ 0x1F3FF

def front (c : Char) : WidthContext :=
  if c = colorSelector then ⟨.plain, true, false⟩
  else if c = textSelector then ⟨.plain, false, true⟩
  else of (sequelOf c)

def isTransparent (c : Char) : Bool :=
  let n := c.toNat
  n = 0x34F || n = 0x17B4 || n = 0x17B5 || 0x180B ≤ n && n ≤ 0x180D || n = 0x180F || n = 0x200D ||
    0xFE00 ≤ n && n ≤ 0xFE0F || 0xE0100 ≤ n && n ≤ 0xE01EF

def isLam (n : Nat) : Bool :=
  n = 0x644 || 0x6B5 ≤ n && n ≤ 0x6B8 || n = 0x76A || n = 0x8A6 || n = 0x8C7

/-- What a character adds in front of a letter that merges, if it is special there. -/
def beforeLetter? (c : Char) (letter : MergingLetter) (joined : Bool) :
    Option (Int × WidthContext) :=
  let n := c.toNat
  match letter with
  | .alef =>
    if isLam n then some (0, start)
    else if isWidthless c && !separatingRanges.contains c then
      some (0, of (.merging .alef joined))
    else none
  | .lamed => if joined && n = 0x5D0 then some (0, start) else none
  | .khmer => if n = 0x17D2 then some (-1, start) else none
  | .buginese =>
    if joined && n = 0x1A17 then some (0, of (.merging .bugineseVowel true)) else none
  | .bugineseVowel => if n = 0x1A15 then some (0, start) else none
  | .tifinagh =>
    if n = 0x2D7F then some (1, of (.merging .tifinaghJoined true))
    else if joined && sequelOf.isTifinagh n then some (0, start)
    else none
  | .tifinaghJoined => if sequelOf.isTifinagh n then some (-1, start) else none
  | .lisu => if 0xA4F8 ≤ n && n ≤ 0xA4FB then some (0, start) else none
  | .orkhon => if joined && n = 0x10C32 then some (0, start) else none

def beforeJoined? (c : Char) : Option (Int × WidthContext) :=
  let n := c.toNat
  if n = 0x20E3 then some (0, of .joinedKeycap)
  else if sequelOf.isRegional n then some (1, of .joinedRegional)
  else if sequelOf.isTone n then some (0, of .tone)
  else if n = 0xE007F then some (0, of (.tags 0 0))
  else if colorRanges.contains c then some (0, of .pictograph)
  else none

/-- What a character adds in front of the tags of a flag, if it is special there. The tags are
three digits and up to four letters before them, or three to six letters. -/
def beforeTags? (c : Char) (letters digits : Nat) : Option (Int × WidthContext) :=
  let n := c.toNat
  if 0xE0061 ≤ n && n ≤ 0xE007A && digits = 0 && letters < 6 then
    some (0, of (.tags (letters + 1) 0))
  else if 0xE0030 ≤ n && n ≤ 0xE0039 && digits < 3 && letters < 5 then
    some (0, of (.tags letters (digits + 1)))
  else if n = 0x1F3F4 && (digits = 3 || digits = 0 && 3 ≤ letters) then some (0, of .pictograph)
  else none

def before? (c : Char) : Sequel → Option (Int × WidthContext)
  | .plain | .lineFeed | .joinedKeycap => none
  | .merging letter joined =>
    if letter ≠ .alef && c = joiner then some (0, of (.merging letter true))
    else if letter ≠ .alef && isTransparent c then some (0, of (.merging letter joined))
    else beforeLetter? c letter joined
  | .tone =>
    if c = joiner then some (0, of .joined)
    else if toneableRanges.contains c then some (0, of .pictograph)
    else none
  | .regional several =>
    if sequelOf.isRegional c.toNat then some (1, of (.regional true))
    else if several && c = joiner then some (0, of .joined)
    else none
  | .pictograph => if c = joiner then some (0, of .joined) else none
  | .joined => beforeJoined? c
  | .joinedRegional =>
    if sequelOf.isRegional c.toNat then some (-1, of (.joinedRegionals true)) else none
  | .joinedRegionals even =>
    if sequelOf.isRegional c.toNat then
      some (if even then 3 else -1, of (.joinedRegionals !even))
    else if c = joiner then some (0, of .joined)
    else none
  | .tags letters digits => beforeTags? c letters digits

/-- What a character adds to the columns of the text behind it, and the context in front of it. -/
def before (c : Char) (f : WidthContext) : Int × WidthContext :=
  if f.color && selectableRanges.contains c then
    (if f.sequel = .joined || f.sequel = .joinedKeycap then 0 else 2, of .pictograph)
  else
    let f := f.withoutColor
    let alone : Int × WidthContext := (charWidth c, front c)
    if c.toNat ≤ 0xA0 then
      if c = '\r' && f.sequel = .lineFeed then (0, start) else (1, of (sequelOf c))
    else if f = start then alone
    else if c = colorSelector then (0, f.withColor)
    else if c = textSelector then (0, f.withText)
    else if f.text && textableRanges.contains c then (1, start)
    else (before? c f.sequel).getD alone

end WidthContext

def width (s : String) : Nat :=
  (s.toList.foldr (fun c (columns, context) ↦
    let (more, context) := WidthContext.before c context
    (columns + more, context)) ((0 : Int), WidthContext.start)).1.toNat

inductive EscapeState where
  | outside
  | opened
  | control
  /-- In an operating system command, after a character. -/
  | command (last : Char)
deriving DecidableEq

namespace EscapeState

def escape : Char := Char.ofNat 27

def after (s : EscapeState) (c : Char) : EscapeState :=
  match s with
  | outside => if c = escape then opened else outside
  | opened => if c = '[' then control else if c = ']' then command c else outside
  | control => if '@' ≤ c && c ≤ '~' then outside else control
  | command last =>
    if c = Char.ofNat 7 || c = '\\' && last = escape then outside else command c

end EscapeState

def marked (s : EscapeState) : List Char → List (Char × Bool)
  | [] => []
  | c :: rest => (c, s = .outside && c ≠ EscapeState.escape) :: marked (s.after c) rest

/-- The columns of a character by itself. Control characters take none. -/
def loneWidth (c : Char) : Nat := (charWidth? c).getD 0

def displayWidth (cs : List Char) : Nat :=
  total (fun (c, visible) ↦ if visible then loneWidth c else 0) (marked .outside cs)

end SuggestionReview.Text
