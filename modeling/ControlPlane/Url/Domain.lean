import ControlPlane.Text.Pieces
import ControlPlane.Url.Domain.Direction
import ControlPlane.Url.Domain.Label

/-!
# Domain names

The name of a host may be written in any script; `Domain.normal?` gives the form that servers of
names know, by the rules of UTS #46: characters are mapped to their compared form, the text is
composed, encoded labels are read, every label is checked, and labels beyond ASCII are encoded.

Main statements: the result is ASCII (`isAscii_of_normal?`), and an ASCII name without encoded
labels is only lower-cased (`normal?_of_ascii`).
-/
namespace ControlPlane.Url.Domain

/-- Whether the labels of a name may stand together. -/
def areCompatible (labels : List (List Char)) : Bool :=
  labels.all isWellFormed && (!labels.any hasRightToLeft || labels.all isUnambiguous)

/-- The characters of the labels of a name, unless it is none. -/
def labels? (cs : List Char) : Option (List (List Char)) :=
  ((mapped? cs).bind fun mapped =>
    (Text.splitAt '.' (Text.composed mapped)).mapM readLabel?).filter areCompatible

/-- The form of a name that servers of names know, unless it is none. -/
def normal? (cs : List Char) : Option (List Char) :=
  (labels? cs).map fun labels => ['.'].intercalate (labels.map writeLabel)

/-! ## ASCII -/

theorem isAscii_of_normal? {cs name : List Char} (h : normal? cs = some name) :
    ∀ c ∈ name, Text.isAscii c = true := by
  obtain ⟨labels, -, rfl⟩ := Option.map_eq_some_iff.1 h
  intro c hc
  rcases Text.mem_intercalate hc with rfl | ⟨piece, hpiece, hc⟩
  · rfl
  · obtain ⟨label, -, rfl⟩ := List.mem_map.1 hpiece
    exact isAscii_of_mem_writeLabel hc

theorem mapM_readLabel?_of_ascii {labels : List (List Char)}
    (h : ∀ label ∈ labels, encodedStart.isPrefixOf label = false) :
    labels.mapM readLabel? = some labels := by
  induction labels with
  | nil => rfl
  | cons label rest ih =>
    rw [List.mapM_cons, readLabel?_of_ascii (h label (by simp)),
      ih fun l hl => h l (by simp [hl])]
    rfl

theorem areCompatible_of_ascii {labels : List (List Char)}
    (h : ∀ label ∈ labels, ∀ c ∈ label, Text.isAscii c = true) : areCompatible labels = true := by
  have hformed : labels.all isWellFormed = true :=
    List.all_eq_true.2 fun label hl => isWellFormed_of_ascii (h label hl)
  have hdirection : labels.any hasRightToLeft = false := by
    rw [List.any_eq_false]
    intro label hl
    simp [hasRightToLeft_of_ascii (h label hl)]
  simp [areCompatible, hformed, hdirection]

theorem normal?_of_ascii {cs : List Char} (h : ∀ c ∈ cs, Text.isAscii c = true)
    (hplain : ∀ label ∈ Text.splitAt '.' (cs.map Char.toLower),
      encodedStart.isPrefixOf label = false) : normal? cs = some (cs.map Char.toLower) := by
  have hlower : ∀ c ∈ cs.map Char.toLower, Text.isAscii c = true := by
    intro c hc
    obtain ⟨d, hd, rfl⟩ := List.mem_map.1 hc
    exact Text.isAscii_toLower (h d hd)
  have hlabels : ∀ label ∈ Text.splitAt '.' (cs.map Char.toLower), ∀ c ∈ label,
      Text.isAscii c = true :=
    fun label hl c hc => hlower c (Text.mem_of_mem_splitBy hl hc)
  have hwrite : (Text.splitAt '.' (cs.map Char.toLower)).map writeLabel =
      Text.splitAt '.' (cs.map Char.toLower) := by
    conv => rhs; rw [← List.map_id (Text.splitAt '.' (cs.map Char.toLower))]
    exact List.map_congr_left fun label hl => writeLabel_of_ascii (hlabels label hl)
  have hnames : labels? cs = some (Text.splitAt '.' (cs.map Char.toLower)) := by
    simp [labels?, mapped?_of_ascii h, Text.composed_of_ascii hlower,
      mapM_readLabel?_of_ascii hplain, areCompatible_of_ascii hlabels]
  rw [normal?, hnames, Option.map_some, hwrite, Text.intercalate_splitAt]

end ControlPlane.Url.Domain
