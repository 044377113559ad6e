import Mathlib.Data.List.DropRight

/-!
# Stripped texts

What Python takes for white space, and texts that have none at either end.
-/

namespace Texts

/-- `str.isspace` of one character. -/
def isSpace (c : Char) : Bool :=
  (9 ≤ c.val && c.val ≤ 13) || (28 ≤ c.val && c.val ≤ 32) || c.val == 0x85 || c.val == 0xA0 || c.val == 0x1680 ||
    (0x2000 ≤ c.val && c.val ≤ 0x200A) || c.val == 0x2028 || c.val == 0x2029 || c.val == 0x202F || c.val == 0x205F ||
    c.val == 0x3000

/-- `str.strip` -/
def strip (text : String) : String :=
  String.ofList ((text.toList.dropWhile isSpace).reverse.dropWhile isSpace).reverse

lemma dropWhile_eq_self {chars : List Char} (h : ∀ c ∈ chars.head?, isSpace c = false) : chars.dropWhile isSpace = chars := by
  cases chars with
  | nil => rfl
  | cons c rest => rw [List.dropWhile_cons_of_neg (by rw [h c rfl]; exact Bool.false_ne_true)]

lemma head_dropWhile (chars : List Char) : ∀ c ∈ (chars.dropWhile isSpace).head?, isSpace c = false := by
  intro c hc
  have hnot := List.head?_dropWhile_not isSpace chars
  rw [Option.mem_def.mp hc] at hnot
  simpa using hnot

lemma strip_eq_self {chars : List Char} (hfirst : ∀ c ∈ chars.head?, isSpace c = false) (hlast : ∀ c ∈ chars.getLast?, isSpace c = false) :
    strip (String.ofList chars) = String.ofList chars := by
  unfold strip
  rw [String.toList_ofList, dropWhile_eq_self hfirst, dropWhile_eq_self, List.reverse_reverse]
  rwa [List.head?_reverse]

lemma head_strip (text : String) : ∀ c ∈ (strip text).toList.head?, isSpace c = false := by
  intro c hc
  obtain ⟨tail, htail⟩ := List.rdropWhile_prefix isSpace (text.toList.dropWhile isSpace)
  apply head_dropWhile text.toList c
  unfold strip at hc
  rw [String.toList_ofList] at hc
  rw [← htail, List.head?_append]
  change c ∈ (List.rdropWhile isSpace (text.toList.dropWhile isSpace)).head? at hc
  rw [Option.mem_def.mp hc, Option.some_or]
  rfl

lemma last_strip (text : String) : ∀ c ∈ (strip text).toList.getLast?, isSpace c = false := by
  intro c hc
  unfold strip at hc
  rw [String.toList_ofList, List.getLast?_reverse] at hc
  exact head_dropWhile _ c hc

lemma strip_strip (text : String) : strip (strip text) = strip text := by
  have hself := strip_eq_self (head_strip text) (last_strip text)
  rwa [String.ofList_toList] at hself

lemma length_strip_pos {first : Char} {rest : List Char} (h : isSpace first = false) :
    1 ≤ (strip (String.ofList (first :: rest))).length := by
  unfold strip
  rw [String.toList_ofList, List.dropWhile_cons_of_neg (by rw [h]; exact Bool.false_ne_true), List.reverse_cons, String.length_ofList,
    List.length_reverse]
  apply List.length_pos_iff.mpr
  intro hnil
  have hall := List.dropWhile_eq_nil_iff.mp hnil first (List.mem_append_right _ (List.mem_singleton_self first))
  rw [h] at hall
  cases hall

end Texts
