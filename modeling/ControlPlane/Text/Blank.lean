/-!
# Blank characters

White space in the sense of the Unicode property `White_Space`, and the trimming of a reply's
body before it is quoted in an error.

Main statement: `trim_eq_nil_iff` — trimming leaves nothing exactly when every character is blank.
-/
namespace ControlPlane.Text

/-- Whether a character is white space. -/
def isBlank (c : Char) : Bool :=
  let n := c.toNat
  (decide (9 ≤ n) && decide (n ≤ 13)) || n == 0x20 || n == 0x85 || n == 0xA0 || n == 0x1680 ||
    (decide (0x2000 ≤ n) && decide (n ≤ 0x200A)) || n == 0x2028 || n == 0x2029 || n == 0x202F ||
    n == 0x205F || n == 0x3000

/-- The text without the blank characters at its start and at its end. -/
def trim (cs : List Char) : List Char :=
  ((cs.dropWhile isBlank).reverse.dropWhile isBlank).reverse

/-- Trimming, on strings. -/
def trimString (s : String) : String :=
  String.ofList (trim s.toList)

/-! ## What trimming leaves -/

theorem dropWhile_eq_nil_of_all {p : Char → Bool} {cs : List Char} (h : ∀ c ∈ cs, p c = true) :
    cs.dropWhile p = [] := by
  induction cs with
  | nil => rfl
  | cons c rest ih =>
    simp only [List.dropWhile_cons, h c (by simp), if_true]
    exact ih fun d hd => h d (by simp [hd])

theorem all_of_dropWhile_eq_nil {p : Char → Bool} {cs : List Char} (h : cs.dropWhile p = []) :
    ∀ c ∈ cs, p c = true := by
  induction cs with
  | nil => simp
  | cons c rest ih =>
    by_cases hc : p c = true
    · simp only [List.dropWhile_cons, hc, if_true] at h
      intro d hd
      rcases List.mem_cons.1 hd with rfl | hd
      · exact hc
      · exact ih h d hd
    · simp [hc] at h

theorem trim_eq_nil_iff (cs : List Char) : trim cs = [] ↔ ∀ c ∈ cs, isBlank c = true := by
  constructor
  · intro h
    have hrev : (cs.dropWhile isBlank).reverse.dropWhile isBlank = [] := by
      simpa [trim] using h
    have hall := all_of_dropWhile_eq_nil hrev
    intro c hc
    by_cases hb : cs.dropWhile isBlank = []
    · exact all_of_dropWhile_eq_nil hb c hc
    · have hhead := List.head_dropWhile_not isBlank hb
      have := hall _ (List.mem_reverse.2 (List.head_mem hb))
      simp [hhead] at this
  · intro h
    simp [trim, dropWhile_eq_nil_of_all h]

end ControlPlane.Text
