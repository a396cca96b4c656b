import ControlPlane.Signing

/-!
# Order by name

The parameters of a query are put in the order of their names up to letter case, and those that
agree in that keep the order in which they were given. So the result depends on the given order
only as far as names agree: two lists in which the parameters of every name come in the same order
are ordered alike (`ordered_congr`). Two names agree exactly when the order tells them not apart,
and no other property of lower-casing is needed.
-/

namespace ControlPlane.Signing

/-- Whether a parameter's name is a given one, up to letter case. -/
def agrees (name : String) (param : String × String) : Bool :=
  Text.lowercaseString param.1 == Text.lowercaseString name

theorem agrees_iff {name : String} {param : String × String} :
    agrees name param = true ↔ Text.lowercaseString param.1 = Text.lowercaseString name := by
  rw [agrees, beq_iff_eq]

theorem agrees_self (param : String × String) : agrees param.1 param = true :=
  agrees_iff.2 rfl

theorem nameLe_iff {a b : String × String} :
    nameLe a b = true ↔ Text.lowercaseString a.1 ≤ Text.lowercaseString b.1 := by
  rw [nameLe, Bool.not_eq_true', decide_eq_false_iff_not, String.not_lt]

theorem nameLe_trans (a b c : String × String) (hab : nameLe a b = true)
    (hbc : nameLe b c = true) : nameLe a c = true :=
  nameLe_iff.2 (String.le_trans (nameLe_iff.1 hab) (nameLe_iff.1 hbc))

theorem nameLe_total (a b : String × String) : (nameLe a b || nameLe b a) = true := by
  rw [Bool.or_eq_true, nameLe_iff, nameLe_iff]
  exact String.le_total _ _

theorem pairwise_ordered (params : Parameters) :
    (ordered params).Pairwise fun a b => nameLe a b = true :=
  List.pairwise_mergeSort nameLe_trans nameLe_total params

/-- Parameters whose names agree keep their order. -/
theorem filter_agrees_ordered (name : String) (params : Parameters) :
    (ordered params).filter (agrees name) = params.filter (agrees name) := by
  have hpairwise : (params.filter (agrees name)).Pairwise fun a b => nameLe a b = true := by
    refine List.pairwise_of_forall_mem_list ?_
    intro a ha b hb
    have hkeys : Text.lowercaseString a.1 = Text.lowercaseString b.1 :=
      (agrees_iff.1 (List.mem_filter.1 ha).2).trans (agrees_iff.1 (List.mem_filter.1 hb).2).symm
    exact nameLe_iff.2 (hkeys ▸ String.le_refl _)
  have hsub : (params.filter (agrees name)).Sublist (ordered params) :=
    List.sublist_mergeSort nameLe_trans nameLe_total hpairwise List.filter_sublist
  have hfiltered := hsub.filter (agrees name)
  rw [List.filter_filter] at hfiltered
  simp only [Bool.and_self] at hfiltered
  have hlength := ((ordered_perm params).filter (agrees name)).length_eq
  exact (hfiltered.eq_of_length hlength.symm).symm

/-- Lists with the same parameters of every name have the same members. -/
theorem mem_of_filter_agrees {ps qs : Parameters}
    (h : ∀ name, ps.filter (agrees name) = qs.filter (agrees name)) {param : String × String}
    (hparam : param ∈ ps) : param ∈ qs := by
  have hmem : param ∈ ps.filter (agrees param.1) := List.mem_filter.2 ⟨hparam, agrees_self param⟩
  rw [h param.1] at hmem
  exact (List.mem_filter.1 hmem).1

/-- Lists in order are equal if the parameters of every name are the same in both. -/
theorem eq_of_pairwise_of_filter {ps qs : Parameters}
    (hps : ps.Pairwise fun a b => nameLe a b = true)
    (hqs : qs.Pairwise fun a b => nameLe a b = true)
    (h : ∀ name, ps.filter (agrees name) = qs.filter (agrees name)) : ps = qs := by
  induction ps generalizing qs with
  | nil =>
    cases qs with
    | nil => rfl
    | cons q qs =>
      have hq := mem_of_filter_agrees (fun name => (h name).symm) (List.mem_cons_self ..)
      exact absurd hq List.not_mem_nil
  | cons p ps ih =>
    cases qs with
    | nil =>
      have hp := mem_of_filter_agrees h (List.mem_cons_self ..)
      exact absurd hp List.not_mem_nil
    | cons q qs =>
      rw [List.pairwise_cons] at hps hqs
      -- each head comes no later than the other, so their names agree
      have hpq : nameLe p q = true := by
        have hmem := mem_of_filter_agrees (fun name => (h name).symm) (List.mem_cons_self ..)
        rcases List.mem_cons.1 hmem with hq | hq
        · exact nameLe_iff.2 (hq ▸ String.le_refl _)
        · exact hps.1 q hq
      have hqp : nameLe q p = true := by
        have hmem := mem_of_filter_agrees h (List.mem_cons_self ..)
        rcases List.mem_cons.1 hmem with hp | hp
        · exact nameLe_iff.2 (hp ▸ String.le_refl _)
        · exact hqs.1 p hp
      have hkey : agrees p.1 q = true :=
        agrees_iff.2 (String.le_antisymm (nameLe_iff.1 hqp) (nameLe_iff.1 hpq))
      have hhead := h p.1
      rw [List.filter_cons_of_pos (agrees_self p), List.filter_cons_of_pos hkey] at hhead
      have hpeq : p = q := (List.cons.inj hhead).1
      subst hpeq
      have htail : ∀ name, ps.filter (agrees name) = qs.filter (agrees name) := by
        intro name
        have hname := h name
        by_cases hp : agrees name p = true
        · rw [List.filter_cons_of_pos hp, List.filter_cons_of_pos hp] at hname
          exact (List.cons.inj hname).2
        · rwa [List.filter_cons_of_neg hp, List.filter_cons_of_neg hp] at hname
      rw [ih hps.2 hqs.2 htail]

/-- The order of parameters depends on how they are given only as far as names agree. -/
theorem ordered_congr {ps qs : Parameters}
    (h : ∀ name, ps.filter (agrees name) = qs.filter (agrees name)) : ordered ps = ordered qs := by
  refine eq_of_pairwise_of_filter (pairwise_ordered ps) (pairwise_ordered qs) ?_
  intro name
  rw [filter_agrees_ordered, filter_agrees_ordered, h name]

theorem ordered_ordered (params : Parameters) : ordered (ordered params) = ordered params :=
  ordered_congr fun name => filter_agrees_ordered name params

/-! ## Parameters that arrive in another order -/

/-- Parameters arrive as they were sent, but for the order of those whose names differ. -/
structure Rearranged (arrived sent : Parameters) : Prop where
  perm : arrived.Perm sent
  keeps : ∀ name, arrived.filter (agrees name) = sent.filter (agrees name)

/-- Where no two names agree, parameters may arrive in any order. -/
theorem rearranged_of_perm {arrived sent : Parameters} (hperm : arrived.Perm sent)
    (hdistinct : sent.Pairwise fun a b =>
      Text.lowercaseString a.1 ≠ Text.lowercaseString b.1) : Rearranged arrived sent := by
  refine ⟨hperm, ?_⟩
  intro name
  have hfiltered := hperm.filter (agrees name)
  have hone := hdistinct.filter (agrees name)
  have hagree : ∀ param ∈ sent.filter (agrees name),
      Text.lowercaseString param.1 = Text.lowercaseString name :=
    fun param hparam => agrees_iff.1 (List.mem_filter.1 hparam).2
  cases hsent : sent.filter (agrees name) with
  | nil =>
    rw [hsent] at hfiltered
    exact List.perm_nil.1 hfiltered
  | cons a rest =>
    rw [hsent] at hfiltered hone hagree
    cases rest with
    | nil => exact List.perm_singleton.1 hfiltered
    | cons b rest =>
      have hab := (List.pairwise_cons.1 hone).1 b (by simp)
      exact absurd ((hagree a (by simp)).trans (hagree b (by simp)).symm) hab

theorem filter_agrees_covered (name : String) (params : Parameters) :
    (covered params).filter (agrees name) = covered (params.filter (agrees name)) := by
  rw [covered, covered, List.filter_filter, List.filter_filter]
  exact List.filter_congr fun param _ => Bool.and_comm _ _

/-- The signed text is the same for parameters that arrive in another order. -/
theorem canonicalQuery_covered_of_rearranged {arrived sent : Parameters}
    (h : Rearranged arrived sent) :
    canonicalQuery (covered arrived) = canonicalQuery (covered sent) := by
  have hordered : ordered (covered arrived) = ordered (covered sent) := by
    refine ordered_congr ?_
    intro name
    rw [filter_agrees_covered, filter_agrees_covered, h.keeps name]
  rw [canonicalQuery, canonicalQuery, hordered]

end ControlPlane.Signing
