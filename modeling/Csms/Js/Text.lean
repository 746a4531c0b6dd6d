import Mathlib.Data.List.DropRight
import Mathlib.Algebra.GroupWithZero.Nat

/-!
# JavaScript strings

The string operations the services normalise request fields with, on the list
of a string's characters: `trim`, `toUpperCase` and `toLowerCase` as far as a
comparison with ASCII words can see them, and the replacement of runs of
whitespace and hyphens by one underscore.
-/

namespace Csms.Js

/-- The characters `String.prototype.trim` and `\s` treat as white space. -/
def isWhitespace (c : Char) : Bool :=
  let code := c.toNat
  (9 ≤ code && code ≤ 13) || code == 32 || code == 160 || code == 0x1680 ||
    (0x2000 ≤ code && code ≤ 0x200A) || code == 0x2028 || code == 0x2029 ||
    code == 0x202F || code == 0x205F || code == 0x3000 || code == 0xFEFF

/-- `String.prototype.trim`. -/
def trim (text : String) : String :=
  String.ofList
    ((text.toList.dropWhile isWhitespace).reverse.dropWhile isWhitespace).reverse

@[simp]
theorem trim_trim (text : String) : trim (trim text) = trim text := by
  have trimmed (text : String) :
      (trim text).toList = (text.toList.dropWhile isWhitespace).rdropWhile isWhitespace :=
    String.toList_ofList
  have back (characters : List Char) : (characters.rdropWhile isWhitespace).rdropWhile
      isWhitespace = characters.rdropWhile isWhitespace :=
    List.rdropWhile_idempotent isWhitespace characters
  have front : ((text.toList.dropWhile isWhitespace).rdropWhile isWhitespace).dropWhile
      isWhitespace = (text.toList.dropWhile isWhitespace).rdropWhile isWhitespace := by
    rw [List.dropWhile_eq_self_iff]
    intro nonempty
    have isPrefix := List.rdropWhile_prefix isWhitespace (text.toList.dropWhile isWhitespace)
    rw [isPrefix.getElem nonempty]
    exact List.dropWhile_get_zero_not isWhitespace text.toList _
  apply String.toList_injective
  rw [trimmed, trimmed, front, back]

/-- Trimming keeps a text that neither starts nor ends with white space. -/
theorem trim_eq_self {text : String} {first last : Char} {middle : List Char}
    (split : text.toList = first :: middle ++ [last]) (firstKept : isWhitespace first = false)
    (lastKept : isWhitespace last = false) : trim text = text := by
  have front : text.toList.dropWhile isWhitespace = text.toList := by
    rw [split, List.cons_append, List.dropWhile_cons_of_neg (by simp [firstKept])]
  have back : text.toList.reverse.dropWhile isWhitespace = text.toList.reverse := by
    rw [split, List.reverse_append, List.reverse_singleton, List.singleton_append,
      List.dropWhile_cons_of_neg (by simp [lastKept])]
  rw [trim, front, back, List.reverse_reverse, String.ofList_toList]

/-- `text.length`: the number of UTF-16 code units. -/
def length (text : String) : Nat :=
  (text.toList.map fun c => if c.toNat < 0x10000 then 1 else 2).sum

/-- `left || right` on optional texts: the empty text is falsy. -/
def orText : Option String → Option String → Option String
  | some text, right => if text = "" then right else some text
  | none, right => right

/-- A text that `||` has chosen is not empty, unless the last one is. -/
theorem ne_empty_of_orText {left right : Option String} {text : String}
    (chosen : orText left right = some text) (last : ∀ text, right = some text → text ≠ "") :
    text ≠ "" := by
  unfold orText at chosen
  split at chosen
  · split at chosen
    · exact last text chosen
    · obtain rfl := Option.some.inj chosen
      assumption
  · exact last text chosen

theorem orText_orText (text : Option String) :
    orText (orText text none) none = orText text none := by
  rcases text with _ | text
  · rfl
  · by_cases isEmpty : text = "" <;> simp [orText, isEmpty]

/-- `Array.from(new Set(..))` of the texts that are not empty when they are trimmed. -/
def distinctTexts (texts : List String) : List String :=
  ((texts.map trim).filter (· ≠ "")).eraseDups

theorem mem_distinctTexts {texts : List String} {text : String} :
    text ∈ distinctTexts texts ↔ ∃ other ∈ texts, trim other = text ∧ text ≠ "" := by
  rw [distinctTexts, List.mem_eraseDups, List.mem_filter, List.mem_map]
  simp only [decide_eq_true_eq]
  constructor
  · rintro ⟨⟨other, member, isTrimmed⟩, notEmpty⟩
    exact ⟨other, member, isTrimmed, notEmpty⟩
  · rintro ⟨other, member, isTrimmed, notEmpty⟩
    exact ⟨⟨other, member, isTrimmed⟩, notEmpty⟩

/-- `texts.join(separator)`. -/
def join (separator : String) : List String → String
  | [] => ""
  | [text] => text
  | text :: texts => text ++ separator ++ join separator texts

/-- The characters that upper-case one character.  Every character outside
ASCII whose upper case is ASCII is listed; the others are kept, so that an
upper-cased text equals an ASCII word exactly when it does in JavaScript. -/
def upperChar (c : Char) : List Char :=
  match c.toNat with
  | 0x0131 => ['I']
  | 0x017F => ['S']
  | 0x00DF => ['S', 'S']
  | 0xFB00 => ['F', 'F']
  | 0xFB01 => ['F', 'I']
  | 0xFB02 => ['F', 'L']
  | 0xFB03 => ['F', 'F', 'I']
  | 0xFB04 => ['F', 'F', 'L']
  | 0xFB05 => ['S', 'T']
  | 0xFB06 => ['S', 'T']
  | _ => [c.toUpper]

/-- `String.prototype.toUpperCase`, as far as ASCII words can see it. -/
def toUpperCase (text : String) : String :=
  String.ofList (text.toList.flatMap upperChar)

theorem toUpper_of_large {c : Char} (large : 128 ≤ c.toNat) : c.toUpper = c := by
  have notLower : ¬(c.val ≥ 'a'.val ∧ c.val ≤ 'z'.val) := by
    rintro ⟨-, upTo⟩
    have : c.val.toNat ≤ 'z'.val.toNat := upTo
    change 128 ≤ c.val.toNat at large
    have : 'z'.val.toNat = 122 := rfl
    omega
  exact dif_neg notLower

theorem upperChar_of_mem {c upper : Char} (isUpper : upper ∈ upperChar c) :
    upperChar upper = [upper] ∧ (isWhitespace c = false → isWhitespace upper = false) := by
  have small : ∀ n < 128, (upperChar (Char.ofNat n)).all (fun upper =>
      upperChar upper = [upper] ∧
        (isWhitespace (Char.ofNat n) = false → isWhitespace upper = false)) = true := by
    decide
  have letters {others : List Char} (all : others.all (fun upper =>
      upperChar upper = [upper] ∧ isWhitespace upper = false) = true) (isOther : upper ∈ others) :
      upperChar upper = [upper] ∧ (isWhitespace c = false → isWhitespace upper = false) := by
    obtain ⟨stays, notSpace⟩ := of_decide_eq_true (List.all_eq_true.mp all upper isOther)
    exact ⟨stays, fun _ => notSpace⟩
  rcases lt_or_ge c.toNat 128 with isSmall | large
  · rw [← Char.ofNat_toNat c] at isUpper ⊢
    exact of_decide_eq_true (List.all_eq_true.mp (small c.toNat isSmall) upper isUpper)
  · unfold upperChar at isUpper
    split at isUpper
    case h_11 =>
      rw [toUpper_of_large large, List.mem_singleton] at isUpper
      subst isUpper
      refine ⟨?_, id⟩
      unfold upperChar
      split <;> simp_all [toUpper_of_large large]
    all_goals exact letters (by decide) isUpper

theorem toUpperCase_toUpperCase (text : String) :
    toUpperCase (toUpperCase text) = toUpperCase text := by
  rw [toUpperCase, toUpperCase, String.toList_ofList, List.flatMap_assoc]
  refine congrArg String.ofList (List.flatMap_congr fun c _ => ?_)
  rw [List.flatMap_congr fun upper isUpper => (upperChar_of_mem isUpper).1]
  exact List.flatMap_singleton' _

theorem dropWhile_flatMap_of_kept {characters : List Char} {change : Char → List Char}
    (kept : characters.dropWhile isWhitespace = characters) (nonempty : ∀ c, change c ≠ [])
    (noSpace : ∀ c, isWhitespace c = false → ∀ other ∈ change c, isWhitespace other = false) :
    (characters.flatMap change).dropWhile isWhitespace = characters.flatMap change := by
  cases characters with
  | nil => rfl
  | cons c rest =>
    have visible : isWhitespace c = false := by
      by_contra isSpace
      rw [List.dropWhile_cons_of_pos (by simpa using isSpace)] at kept
      have shorter := (List.dropWhile_suffix (l := rest) isWhitespace).length_le
      rw [kept, List.length_cons] at shorter
      omega
    obtain ⟨first, others, isChange⟩ := List.exists_cons_of_ne_nil (nonempty c)
    rw [List.flatMap_cons, isChange, List.cons_append, List.dropWhile_cons_of_neg]
    rw [noSpace c visible first (isChange ▸ List.mem_cons_self)]
    exact Bool.false_ne_true

theorem trim_toUpperCase {text : String} (trimmed : trim text = text) :
    trim (toUpperCase text) = toUpperCase text := by
  have isTrimmed : ((text.toList.dropWhile isWhitespace).reverse.dropWhile isWhitespace).reverse =
      text.toList := String.ofList_injective (trimmed.trans String.ofList_toList.symm)
  have back := (List.dropWhile_suffix (l := (text.toList.dropWhile isWhitespace).reverse)
    isWhitespace)
  have front := List.dropWhile_suffix (l := text.toList) isWhitespace
  have lengths := congrArg List.length isTrimmed
  have backLength := back.length_le
  have frontLength := front.length_le
  rw [List.length_reverse] at lengths backLength
  have frontKept := front.eq_of_length (by omega)
  have backKept := back.eq_of_length (by rw [List.length_reverse]; omega)
  rw [frontKept] at backKept
  have nonempty (c : Char) : upperChar c ≠ [] := by
    unfold upperChar
    split <;> exact List.cons_ne_nil _ _
  have noSpace (c : Char) (visible : isWhitespace c = false) (upper : Char)
      (isUpper : upper ∈ upperChar c) : isWhitespace upper = false :=
    (upperChar_of_mem isUpper).2 visible
  rw [trim, toUpperCase, String.toList_ofList, dropWhile_flatMap_of_kept frontKept nonempty noSpace,
    List.reverse_flatMap, dropWhile_flatMap_of_kept backKept, ← List.reverse_flatMap,
    List.reverse_reverse]
  · exact fun c => by simpa using nonempty c
  · exact fun c visible other isOther => noSpace c visible other (List.mem_reverse.mp isOther)

/-- `String.prototype.toLowerCase`, as far as ASCII words can see it: the
Kelvin sign is the one character outside ASCII with an ASCII lower case. -/
def toLowerCase (text : String) : String :=
  String.ofList (text.toList.map fun c => if c.toNat = 0x212A then 'k' else c.toLower)

/-- `replace(/[\s-]+/g, '_')` on the characters of a text; the flag says that
the previous character already belongs to a replaced run. -/
def underscoreRuns : Bool → List Char → List Char
  | _, [] => []
  | inRun, c :: rest =>
    if isWhitespace c || c == '-' then
      if inRun then underscoreRuns true rest else '_' :: underscoreRuns true rest
    else
      c :: underscoreRuns false rest

/-- `text.replace(/[\s-]+/g, '_').toUpperCase()`. -/
def toWord (text : String) : String :=
  toUpperCase (String.ofList (underscoreRuns false text.toList))

example : toWord "observe - only" = "OBSERVE_ONLY" := by decide

end Csms.Js
