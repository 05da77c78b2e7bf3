import Mathlib.Data.List.Sort
import TypeHints.Hint.Key
import TypeHints.Proofs.Literals

/-!
# Texts in dictionary order

Dictionary order compares texts by the primary weights of their letters first, and where these agree
by case. It is a total preorder (`Text.instTransCmpCollate`), since each of the two comparisons is
one of lists of numbers, so that sorting puts texts in order (`inOrder_sortTexts`).

The order leaves open which of two texts comes first that tie. Characters that dictionaries ignore
and letters with the same weights make texts tie that are not equal, and sorting keeps these in the
order in which they came. Where only equal texts tie (`Text.Told`), the sorted texts do not depend
on the order in which they came:

* `sortTexts_congr`: texts that are the same up to order are the same when sorted;
* `Text.eq_of_collate_eq`: texts of printable ASCII characters are all told apart. None of these
  characters is ignored, and no two of them have the same primary weight and the same case. There
  are 95 of them, and their weights are compared by evaluation.

The keys of hints are mostly of this kind, which is what makes the key of a union independent of the
order of its members.
-/

namespace TypeHints

namespace Text

/-! ### A total preorder -/

/-- Weights are compared like lists of numbers. -/
theorem compareWeights_eq_compare : ∀ xs ys : List Nat, compareWeights xs ys = compare xs ys
  | [], [] => rfl
  | [], _ :: _ => rfl
  | _ :: _, [] => rfl
  | x :: xs, y :: ys => by
    rw [compareWeights, List.compare_cons_cons, compareWeights_eq_compare xs ys, Nat.compare_eq_ite_lt]
    rcases Nat.lt_trichotomy x y with hlt | rfl | hgt
    · simp [hlt]
    · simp
    · simp [hgt, Nat.lt_asymm hgt]

/-- The primary weights of a text. -/
def primaryWeights (s : String) : List Nat := (weighted s).map primaryWeight

/-- The case weights of a text. -/
def caseWeights (s : String) : List Nat := (weighted s).map caseWeight

/-- Dictionary order is the lexicographic order of two comparisons. -/
theorem collate_eq_compareLex : collate = compareLex (compareOn primaryWeights) (compareOn caseWeights) := by
  funext s t
  simp only [collate, compareWeights_eq_compare]
  rfl

instance instTransCmpCollate : Std.TransCmp collate := by
  rw [collate_eq_compareLex]
  infer_instance

/-- Two texts tie if neither their letters nor their cases differ. -/
theorem collate_eq_iff {s t : String} :
    collate s t = .eq ↔ primaryWeights s = primaryWeights t ∧ caseWeights s = caseWeights t := by
  rw [collate_eq_compareLex, compareLex, Ordering.then_eq_eq]
  exact and_congr Std.LawfulEqOrd.compare_eq_iff_eq Std.LawfulEqOrd.compare_eq_iff_eq

/-- One text does not come after another. -/
theorem collateLE_iff {s t : String} : collateLE s t = true ↔ (collate s t).isLE = true := by
  rw [collateLE, decide_eq_true_iff, Ordering.isLE_iff_ne_gt]

/-- Dictionary order is transitive. -/
theorem collateLE_trans {s t u : String} (h : collateLE s t = true) (h' : collateLE t u = true) :
    collateLE s u = true :=
  collateLE_iff.mpr (Std.TransCmp.isLE_trans (collateLE_iff.mp h) (collateLE_iff.mp h'))

/-- Texts compare the other way round in the other order. -/
theorem collate_swap (s t : String) : collate s t = (collate t s).swap :=
  Std.OrientedCmp.eq_swap

/-- Of two texts one does not come after the other. -/
theorem collateLE_total {s t : String} (h : collateLE s t ≠ true) : collateLE t s = true := by
  rw [ne_eq, collateLE, decide_eq_true_iff, ne_eq, not_not] at h
  rw [collateLE, decide_eq_true_iff, collate_swap, h]
  decide

/-- Texts of which neither comes after the other tie. -/
theorem collate_eq_of_le {s t : String} (h : collateLE s t = true) (h' : collateLE t s = true) :
    collate s t = .eq := by
  rw [collateLE, decide_eq_true_iff] at h h'
  rw [collate_swap] at h'
  cases hst : collate s t with
  | lt => simp [hst] at h'
  | eq => rfl
  | gt => exact absurd hst h

/-! ### Sorting -/

/-- Of some texts only equal ones tie. -/
def Told (ss : List String) : Prop := ∀ s ∈ ss, ∀ t ∈ ss, collate s t = .eq → s = t

end Text

open Text

/-- Texts in dictionary order: none comes before an earlier one. -/
abbrev InOrder (ss : List String) : Prop := ss.Pairwise (collateLE · · = true)

/-- A text is inserted where it belongs. -/
theorem InOrder.insertText {s : String} {ts : List String} (h : InOrder ts) :
    InOrder (insertText s ts) := by
  induction ts with
  | nil => exact List.pairwise_singleton _ _
  | cons t ts ih =>
    obtain ⟨ht, hts⟩ := List.pairwise_cons.mp h
    rw [TypeHints.insertText]
    split
    · rename_i hst
      refine List.pairwise_cons.mpr ⟨fun u hu ↦ ?_, h⟩
      rcases List.mem_cons.mp hu with rfl | hu
      · exact hst
      · exact collateLE_trans hst (ht u hu)
    · rename_i hst
      refine List.pairwise_cons.mpr ⟨fun u hu ↦ ?_, ih hts⟩
      rcases List.mem_cons.mp ((insertText_perm s ts).subset hu) with rfl | hu
      · exact collateLE_total hst
      · exact ht u hu

/-- Sorted texts are in order. -/
theorem inOrder_sortTexts (ss : List String) : InOrder (sortTexts ss) := by
  induction ss with
  | nil => exact .nil
  | cons s ss ih => exact ih.insertText

/-- Where only equal texts tie, sorting forgets the order in which the texts came. -/
theorem sortTexts_congr {ss ts : List String} (htold : Told ss) (h : ss.Perm ts) :
    sortTexts ss = sortTexts ts := by
  have hperm : (sortTexts ss).Perm (sortTexts ts) :=
    (sortTexts_perm ss).trans (h.trans (sortTexts_perm ts).symm)
  refine hperm.eq_of_pairwise (fun s t hs ht hle hge ↦ ?_) (inOrder_sortTexts ss)
    (inOrder_sortTexts ts)
  have hs' : s ∈ ss := (sortTexts_perm ss).subset hs
  have ht' : t ∈ ss := h.symm.subset ((sortTexts_perm ts).subset ht)
  exact htold s hs' t ht' (collate_eq_of_le hle hge)

/-! ### Printable texts -/

namespace Text

open Expression

/-- A text of printable characters of ASCII. -/
def Printable (s : String) : Prop := ∀ c ∈ s.toList, isPrintable c = true

/-- No printable character is ignored. -/
theorem weighted_of_printable {s : String} (hs : Printable s) : weighted s = s.toList := by
  have hcanonical : ∀ cs : List Char, (∀ c ∈ cs, isPrintable c = true) → canonical cs = cs := by
    intro cs hcs
    induction cs with
    | nil => rfl
    | cons c cs ih =>
      obtain ⟨hc, hcs⟩ := List.forall_mem_cons.mp hcs
      have hhigh := (toNat_of_isPrintable hc).2
      have hdecompose : decompose c = [c] := by
        rw [decompose]
        exact if_pos (by omega)
      show (decompose c ++ cs.flatMap decompose).foldr insertMark [] = c :: cs
      rw [hdecompose, List.singleton_append, List.foldr_cons]
      show insertMark c (canonical cs) = c :: cs
      rw [ih hcs]
      cases cs with
      | nil => rfl
      | cons d ds =>
        have hd := (toNat_of_isPrintable (hcs d List.mem_cons_self)).2
        -- printable characters are no marks
        have hclass : combiningClass d = 0 := if_pos (by omega)
        rw [insertMark, if_neg fun h ↦ h.1 hclass]
  have hweight : ∀ c ∈ s.toList, hasWeight c = true := by
    intro c hc
    obtain ⟨hlow, hhigh⟩ := toNat_of_isPrintable (hs c hc)
    have hin : inRanges [(32, 126)] c.toNat = true := by simp [inRanges, hlow, hhigh]
    rw [hasWeight, notInRanges_of_areApart (by decide +kernel) hin]
    rfl
  have hleader : ∀ c ∈ s.toList, leader c = c := by
    intro c hc
    have hhigh := (toNat_of_isPrintable (hs c hc)).2
    exact if_pos (by omega)
  rw [weighted, hcanonical _ hs, List.filter_eq_self.mpr hweight, List.map_congr_left hleader,
    List.map_id']

/-- The two weights of a character. -/
def weights (c : Char) : Nat × Nat := (primaryWeight c, caseWeight c)

/-- No two printable characters have the same weights. -/
theorem eq_of_weights_eq {c d : Char} (hc : isPrintable c = true) (hd : isPrintable d = true)
    (h : weights c = weights d) : c = d := by
  -- all weights are computed and compared once, for the characters by their places
  have hnodup : ((List.range 95).map fun n ↦ weights (Char.ofNat (32 + n))).Nodup := by
    decide +kernel
  have hplace {c : Char} (hc : isPrintable c = true) :
      c.toNat - 32 ∈ List.range 95 ∧ Char.ofNat (32 + (c.toNat - 32)) = c := by
    obtain ⟨hlow, hhigh⟩ := toNat_of_isPrintable hc
    refine ⟨List.mem_range.mpr (by omega), ?_⟩
    rw [Nat.add_sub_cancel' hlow, Char.ofNat_toNat]
  have hplaces := List.inj_on_of_nodup_map hnodup (hplace hc).1 (hplace hd).1
    (by rw [(hplace hc).2, (hplace hd).2, h])
  rw [← (hplace hc).2, ← (hplace hd).2, hplaces]

/-- Printable texts are told apart by their weights, character by character. -/
theorem eq_of_map_weights_eq {cs : List Char} (hcs : ∀ c ∈ cs, isPrintable c = true) :
    ∀ {ds : List Char}, (∀ d ∈ ds, isPrintable d = true) → cs.map weights = ds.map weights →
      cs = ds := by
  induction cs with
  | nil => exact fun _ h ↦ (List.map_eq_nil_iff.mp h.symm).symm
  | cons c cs ih =>
    rintro (- | ⟨d, ds⟩) hds h
    · cases h
    obtain ⟨hc, hcs⟩ := List.forall_mem_cons.mp hcs
    obtain ⟨hd, hds⟩ := List.forall_mem_cons.mp hds
    rw [List.map_cons, List.map_cons, List.cons.injEq] at h
    rw [eq_of_weights_eq hc hd h.1, ih hcs hds h.2]

/-- Of printable texts only equal ones tie. -/
theorem eq_of_collate_eq {s t : String} (hs : Printable s) (ht : Printable t)
    (h : collate s t = .eq) : s = t := by
  obtain ⟨hprimary, hcase⟩ := collate_eq_iff.mp h
  rw [primaryWeights, primaryWeights, weighted_of_printable hs, weighted_of_printable ht]
    at hprimary
  rw [caseWeights, caseWeights, weighted_of_printable hs, weighted_of_printable ht] at hcase
  refine String.toList_inj.mp (eq_of_map_weights_eq hs ht ?_)
  have hzip (cs : List Char) :
      cs.map weights = (cs.map primaryWeight).zip (cs.map caseWeight) := List.zip_map'.symm
  rw [hzip, hzip, hprimary, hcase]

/-- Printable texts are told apart. -/
theorem told_of_printable {ss : List String} (hss : ∀ s ∈ ss, Printable s) : Told ss :=
  fun s hs t ht ↦ eq_of_collate_eq (hss s hs) (hss t ht)

end Text

end TypeHints
