import Mathlib.Data.List.Basic

/-! The string operations the kernel uses, on sequences of characters. -/

namespace Text

/-- `str::contains` for a single character. -/
def contains (text : String) (separator : Char) : Bool := text.toList.contains separator

def splitChars (separator : Char) : List Char → Option (List Char × List Char)
  | [] => none
  | char :: rest =>
    if char = separator then some ([], rest)
    else (splitChars separator rest).map fun (left, right) => (char :: left, right)

/-- `str::split_once`: the text before and after the first separator. -/
def splitOnce (text : String) (separator : Char) : Option (String × String) :=
  (splitChars separator text.toList).map fun (left, right) => (String.ofList left, String.ofList right)

/-- The first piece of `str::split`, which is the whole text when it has no separator. -/
def firstPiece (text : String) (separator : Char) : String :=
  match splitOnce text separator with
  | some (left, _) => left
  | none => text

def startsWith (text start : String) : Bool := start.toList.isPrefixOf text.toList

/-- `str::strip_prefix`. -/
def stripPrefix (text start : String) : Option String :=
  if startsWith text start then some (String.ofList (text.toList.drop start.toList.length)) else none

def toAsciiLowercase (text : String) : String :=
  String.ofList (text.toList.map fun char => if char.isUpper then Char.ofNat (char.toNat + 32) else char)

def toAsciiUppercase (text : String) : String :=
  String.ofList (text.toList.map fun char => if char.isLower then Char.ofNat (char.toNat - 32) else char)

/-- Unicode `White_Space`. -/
def isWhitespace (char : Char) : Bool :=
  let code := char.toNat
  (9 ≤ code && code ≤ 13) || code == 0x20 || code == 0x85 || code == 0xA0 || code == 0x1680 ||
    (0x2000 ≤ code && code ≤ 0x200A) || code == 0x2028 || code == 0x2029 || code == 0x202F || code == 0x205F ||
    code == 0x3000

/-- `str::trim`. -/
def trim (text : String) : String :=
  String.ofList (((text.toList.dropWhile isWhitespace).reverse.dropWhile isWhitespace).reverse)

def splitAll (separator : Char) : List Char → List (List Char)
  | [] => [[]]
  | char :: rest =>
    if char = separator then [] :: splitAll separator rest
    else
      match splitAll separator rest with
      | [] => [[char]]
      | piece :: pieces => (char :: piece) :: pieces

/-- `str::split`, with all its pieces. -/
def split (text : String) (separator : Char) : List String := (splitAll separator text.toList).map String.ofList

def join (separator : Char) (pieces : List String) : String :=
  String.ofList ([separator].intercalate (pieces.map String.toList))

def skipPlus : List Char → List Char
  | '+' :: rest => rest
  | chars => chars

/-- `str::parse` for an unsigned integer below the bound. -/
def parseUnsigned (bound : Nat) (text : String) : Option Nat :=
  let digits := skipPlus text.toList
  let value := Nat.ofDigitChars 10 digits 0
  if digits ≠ [] ∧ digits.all Char.isDigit ∧ value < bound then some value else none

/-- An integer as `format!` pads it with zeros. The width includes the sign. -/
def zeroPadded (width : Nat) (value : Int) : String :=
  let sign := if value < 0 then ['-'] else []
  let digits := (toString value.natAbs).toList
  String.ofList (sign ++ List.replicate (width - (sign.length + digits.length)) '0' ++ digits)

def hexDigit (value : Nat) : Char := Char.ofNat (if value < 10 then value + 48 else value + 87)

/-- Two lower-case hex digits for each byte. -/
def hex (bytes : List UInt8) : String :=
  String.ofList (bytes.flatMap fun byte => [hexDigit (byte.toNat / 16), hexDigit (byte.toNat % 16)])

private theorem splitChars_isSome (separator : Char) (text : List Char) :
    (splitChars separator text).isSome = text.contains separator := by
  induction text with
  | nil => rfl
  | cons char rest ih =>
    simp only [splitChars, List.contains_cons]
    split
    next same => simp [same]
    next different =>
      have other : (separator == char) = false := by simpa using fun same : separator = char => different same.symm
      simpa [other] using ih

theorem splitOnce_isSome (text : String) (separator : Char) :
    (splitOnce text separator).isSome = contains text separator := by
  simp [splitOnce, contains, splitChars_isSome]

variable {separator char : Char} {text left right : String} {number : Nat}

private theorem splitChars_eq_some_iff {text left right : List Char} :
    splitChars separator text = some (left, right) ↔ text = left ++ separator :: right ∧ separator ∉ left := by
  induction text generalizing left with
  | nil => simp [splitChars]
  | cons char rest ih =>
    simp only [splitChars]
    split
    next same =>
      subst same
      cases left with
      | nil => simp [eq_comm]
      | cons first others => simp +contextual [eq_comm]
    next different =>
      cases left with
      | nil => simp [different]
      | cons first others =>
        simp only [Option.map_eq_some_iff, Prod.exists, Prod.mk.injEq, List.cons.injEq, List.cons_append, List.mem_cons,
          not_or]
        constructor
        · rintro ⟨before, after, found, ⟨rfl, rfl⟩, rfl⟩
          obtain ⟨shape, absent⟩ := ih.mp found
          exact ⟨⟨rfl, shape⟩, Ne.symm different, absent⟩
        · rintro ⟨⟨rfl, shape⟩, _, absent⟩
          exact ⟨others, right, ih.mpr ⟨shape, absent⟩, ⟨rfl, rfl⟩, rfl⟩

theorem splitOnce_eq_some_iff :
    splitOnce text separator = some (left, right) ↔
      text.toList = left.toList ++ separator :: right.toList ∧ separator ∉ left.toList := by
  rw [← splitChars_eq_some_iff]
  simp only [splitOnce, Option.map_eq_some_iff, Prod.exists, Prod.mk.injEq]
  constructor
  · rintro ⟨before, after, found, rfl, rfl⟩
    simpa using found
  · intro found
    exact ⟨_, _, found, String.ofList_toList, String.ofList_toList⟩

theorem splitAll_eq_splitOn (separator : Char) (text : List Char) :
    splitAll separator text = text.splitOn separator := by
  induction text with
  | nil => rfl
  | cons char rest ih =>
    rw [splitAll, List.splitOn, List.splitOnP_cons_eq_if_modifyHead, ← List.splitOn, ih]
    by_cases same : char = separator
    · rw [if_pos same, if_pos (by simp [same])]
    · rw [if_neg same, if_neg (by simp [same])]
      obtain ⟨piece, pieces, shape⟩ := List.exists_cons_of_ne_nil (List.splitOnP_ne_nil (· == separator) rest)
      rw [← List.splitOn] at shape
      rw [shape]
      rfl

theorem split_join {pieces : List String} (free : ∀ piece ∈ pieces, separator ∉ piece.toList)
    (some : pieces ≠ []) : split (join separator pieces) separator = pieces := by
  have whole : ∀ chars ∈ pieces.map String.toList, separator ∉ chars := by
    intro chars member
    obtain ⟨piece, listed, rfl⟩ := List.mem_map.mp member
    exact free piece listed
  rw [split, join, String.toList_ofList, splitAll_eq_splitOn, List.splitOn_intercalate separator whole (by simpa),
    List.map_map]
  exact List.map_id'' (fun piece => String.ofList_toList) pieces

private theorem not_mem_splitAll {text piece : List Char} (member : piece ∈ splitAll separator text) :
    separator ∉ piece := by
  induction text generalizing piece with
  | nil => simp_all [splitAll]
  | cons char rest ih =>
    rw [splitAll] at member
    split at member
    · rcases List.mem_cons.mp member with rfl | later
      · exact List.not_mem_nil
      · exact ih later
    next different =>
      cases pieces : splitAll separator rest with
      | nil =>
        rw [pieces] at member
        rw [List.mem_singleton.mp member, List.mem_singleton]
        exact Ne.symm different
      | cons first others =>
        rw [pieces] at member ih
        rcases List.mem_cons.mp member with rfl | later
        · exact List.not_mem_cons_of_ne_of_not_mem (Ne.symm different) (ih List.mem_cons_self)
        · exact ih (List.mem_cons_of_mem first later)

theorem not_mem_of_mem_split {piece : String} (member : piece ∈ split text separator) :
    separator ∉ piece.toList := by
  obtain ⟨chars, listed, rfl⟩ := List.mem_map.mp member
  rw [String.toList_ofList]
  exact not_mem_splitAll listed

theorem stripPrefix_append (start rest : String) : stripPrefix (start ++ rest) start = some rest := by
  simp [stripPrefix, startsWith]

theorem dropWhile_eq_self {α : Type} {drops : α → Bool} {items : List α} (kept : ∀ item ∈ items, drops item = false) :
    items.dropWhile drops = items := by
  cases items with
  | nil => rfl
  | cons first rest => simp [kept first]

theorem trim_eq_self (solid : ∀ char ∈ text.toList, isWhitespace char = false) : trim text = text := by
  have reversed : ∀ char ∈ text.toList.reverse, isWhitespace char = false :=
    fun char member => solid char (List.mem_reverse.mp member)
  rw [trim, dropWhile_eq_self solid, dropWhile_eq_self reversed, List.reverse_reverse, String.ofList_toList]

theorem hex_ne_empty {bytes : List UInt8} (some : bytes ≠ []) : hex bytes ≠ "" := by
  obtain ⟨byte, rest, rfl⟩ := List.exists_cons_of_ne_nil some
  intro empty
  have none := congrArg String.toList empty
  simp [hex] at none

theorem append_cons_inj_of_last {α : Type} {mark : α} {left right left' right' : List α} (none : mark ∉ right)
    (none' : mark ∉ right') (same : left ++ mark :: right = left' ++ mark :: right') :
    left = left' ∧ right = right' := by
  rcases List.append_eq_append_iff.mp same with ⟨between, longer, rest⟩ | ⟨between, longer, rest⟩
  · cases between with
    | nil =>
      cases rest
      exact ⟨by simpa using longer.symm, rfl⟩
    | cons first others =>
      obtain ⟨-, rfl⟩ := List.cons.inj rest
      exact absurd (List.mem_append_right others List.mem_cons_self) none
  · cases between with
    | nil =>
      cases rest
      exact ⟨by simpa using longer, rfl⟩
    | cons first others =>
      obtain ⟨-, rfl⟩ := List.cons.inj rest
      exact absurd (List.mem_append_right others List.mem_cons_self) none'

theorem isDigit_of_mem_toString (member : char ∈ (toString number).toList) :
    char.isDigit = true := by
  rw [Nat.toString_eq_repr, Nat.toList_repr] at member
  exact Nat.isDigit_of_mem_toDigits (by decide) (by decide) member

/-- A name with a number after its last dash is read in one way. -/
theorem numbered_inj {first second : Nat}
    (same : left ++ "-" ++ toString first = right ++ "-" ++ toString second) : left = right ∧ first = second := by
  have undashed : ∀ number : Nat, '-' ∉ (toString number).toList := by
    intro number member
    have digit := isDigit_of_mem_toString member
    revert digit
    decide
  have lists : left.toList ++ '-' :: (toString first).toList = right.toList ++ '-' :: (toString second).toList := by
    simpa using congrArg String.toList same
  obtain ⟨names, numbers⟩ := append_cons_inj_of_last (undashed first) (undashed second) lists
  simp only [Nat.toString_eq_repr, Nat.toList_repr] at numbers
  have read := congrArg (fun digits => Nat.ofDigitChars 10 digits 0) numbers
  simp only [Nat.ofDigitChars_toDigits (by decide : 1 < 10) (by decide)] at read
  exact ⟨String.toList_injective names, read⟩

section Case
variable {char : Char} {first : Nat}

def lowerChar (char : Char) : Char := if char.isUpper then Char.ofNat (char.toNat + 32) else char

def upperChar (char : Char) : Char := if char.isLower then Char.ofNat (char.toNat - 32) else char

theorem letter_index (low : first ≤ char.toNat) (high : char.toNat < first + 26) :
    ∃ index ∈ List.range 26, char = Char.ofNat (first + index) := by
  refine ⟨char.toNat - first, List.mem_range.mpr (by omega), ?_⟩
  rw [Nat.add_sub_cancel' low, Char.ofNat_toNat]

theorem isLower_index (small : char.isLower = true) : ∃ index ∈ List.range 26, char = Char.ofNat (97 + index) := by
  obtain ⟨low, high⟩ := Bool.and_eq_true_iff.mp small
  simp only [decide_eq_true_eq, UInt32.le_iff_toNat_le] at low high
  exact letter_index low (Nat.lt_succ_of_le high)

theorem isUpper_index (large : char.isUpper = true) : ∃ index ∈ List.range 26, char = Char.ofNat (65 + index) := by
  obtain ⟨low, high⟩ := of_decide_eq_true large
  simp only [ge_iff_le, UInt32.le_iff_toNat_le] at low high
  exact letter_index low (Nat.lt_succ_of_le high)

theorem lowerChar_upperChar (char : Char) : lowerChar (upperChar char) = lowerChar char := by
  by_cases small : char.isLower = true
  · have letters : ((List.range 26).all fun index =>
        lowerChar (upperChar (Char.ofNat (97 + index))) == lowerChar (Char.ofNat (97 + index))) = true := by
      decide +kernel
    obtain ⟨index, inside, rfl⟩ := isLower_index small
    exact beq_iff_eq.mp (List.all_eq_true.mp letters index inside)
  · rw [upperChar, if_neg small]

theorem upperChar_lowerChar (char : Char) : upperChar (lowerChar char) = upperChar char := by
  by_cases large : char.isUpper = true
  · have letters : ((List.range 26).all fun index =>
        upperChar (lowerChar (Char.ofNat (65 + index))) == upperChar (Char.ofNat (65 + index))) = true := by
      decide +kernel
    obtain ⟨index, inside, rfl⟩ := isUpper_index large
    exact beq_iff_eq.mp (List.all_eq_true.mp letters index inside)
  · rw [lowerChar, if_neg large]

theorem lowercase_uppercase (text : String) : toAsciiLowercase (toAsciiUppercase text) = toAsciiLowercase text := by
  show String.ofList ((String.ofList (text.toList.map upperChar)).toList.map lowerChar) = _
  rw [String.toList_ofList, List.map_map, show lowerChar ∘ upperChar = lowerChar from funext lowerChar_upperChar]
  rfl

theorem uppercase_lowercase (text : String) : toAsciiUppercase (toAsciiLowercase text) = toAsciiUppercase text := by
  show String.ofList ((String.ofList (text.toList.map lowerChar)).toList.map upperChar) = _
  rw [String.toList_ofList, List.map_map, show upperChar ∘ lowerChar = upperChar from funext upperChar_lowerChar]
  rfl

theorem lowercase_eq_iff {first second : String} : toAsciiLowercase first = toAsciiLowercase second ↔
    toAsciiUppercase first = toAsciiUppercase second := by
  constructor
  · intro same
    rw [← uppercase_lowercase first, same, uppercase_lowercase]
  · intro same
    rw [← lowercase_uppercase first, same, lowercase_uppercase]

end Case

end Text
