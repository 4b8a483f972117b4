import EndpointCatalog.Text.Code
import EndpointCatalog.Text.Names
import Mathlib.Data.String.Basic

namespace EndpointCatalog.Text

theorem code_toNat_injective : Function.Injective Code.toNat := by
  intro a b same
  cases a with
  | char c =>
    have valid : c.toNat < 0xd800 ∨ 0xdfff < c.toNat ∧ c.toNat < 0x110000 := c.valid
    cases b with
    | char d => rw [Char.toNat_inj.mp same]
    | half unit =>
      simp only [Code.toNat] at same
      omega
  | half unit =>
    cases b with
    | char d =>
      have valid : d.toNat < 0xd800 ∨ 0xdfff < d.toNat ∧ d.toNat < 0x110000 := d.valid
      simp only [Code.toNat] at same
      omega
    | half other =>
      simp only [Code.toNat] at same
      rw [Fin.ext (show (unit : Nat) = other by omega)]

instance codesOrdered : IsStrictTotalOrder Code (· < ·) where
  irrefl a := Nat.lt_irrefl a.toNat
  trans _ _ _ := Nat.lt_trans
  trichotomous _ _ front back :=
    code_toNat_injective (Nat.le_antisymm (Nat.le_of_not_lt back) (Nat.le_of_not_lt front))

variable {α : Type} [LT α] [IsStrictTotalOrder α (· < ·)]

instance listsOrdered : IsStrictTotalOrder (List α) (· < ·) where
  irrefl := List.lt_irrefl
  trans _ _ _ := List.lt_trans
  trichotomous := Std.Trichotomous.trichotomous (r := fun a b : List α => a < b)

variable [DecidableEq α] [DecidableLT α] {first second : List α}

theorem partsLe_total (first second : List α) :
    (partsLe first second || partsLe second first) = true := by
  induction first generalizing second with
  | nil => rfl
  | cons a as ih =>
    cases second with
    | nil => rfl
    | cons b bs =>
      unfold partsLe
      by_cases same : a = b
      · rw [if_pos same, if_pos same.symm]
        exact ih bs
      · rw [if_neg same, if_neg (Ne.symm same)]
        rcases trichotomous_of (· < ·) a b with before | level | behind
        · simp [before]
        · exact absurd level same
        · simp [behind]

theorem partsLe_trans (first second third : List α) (front : partsLe first second = true)
    (back : partsLe second third = true) : partsLe first third = true := by
  induction first generalizing second third with
  | nil => rfl
  | cons a as ih =>
    cases second with
    | nil => cases front
    | cons b bs =>
      cases third with
      | nil => cases back
      | cons c cs =>
        unfold partsLe at front back ⊢
        by_cases early : a = b
        · subst early
          rw [if_pos rfl] at front
          by_cases late : a = c
          · rw [if_pos late] at back ⊢
            exact ih bs cs front back
          · rw [if_neg late] at back ⊢
            exact back
        · rw [if_neg early, decide_eq_true_iff] at front
          by_cases late : b = c
          · subst late
            rw [if_neg early, decide_eq_true_iff]
            exact front
          · rw [if_neg late, decide_eq_true_iff] at back
            have apart : a < c := trans_of (· < ·) front back
            rw [if_neg (ne_of_irrefl apart), decide_eq_true_iff]
            exact apart

theorem partsLe_antisymm (first second : List α) (front : partsLe first second = true)
    (back : partsLe second first = true) : first = second := by
  induction first generalizing second with
  | nil =>
    cases second with
    | nil => rfl
    | cons b bs => cases back
  | cons a as ih =>
    cases second with
    | nil => cases front
    | cons b bs =>
      unfold partsLe at front back
      by_cases same : a = b
      · subst same
        rw [if_pos rfl] at front back
        rw [ih bs front back]
      · rw [if_neg same, decide_eq_true_iff] at front
        rw [if_neg (Ne.symm same), decide_eq_true_iff] at back
        exact absurd (trans_of (· < ·) front back) (irrefl_of (· < ·) a)

-- Apart from equal sequences it is the lexicographic order of lists.
omit [IsStrictTotalOrder α (· < ·)] in
theorem partsLe_lt (front : partsLe first second = true) (apart : first ≠ second) :
    first < second := by
  induction first generalizing second with
  | nil =>
    cases second with
    | nil => exact absurd rfl apart
    | cons b bs => exact List.nil_lt_cons b bs
  | cons a as ih =>
    cases second with
    | nil => cases front
    | cons b bs =>
      unfold partsLe at front
      rw [List.cons_lt_cons_iff]
      by_cases same : a = b
      · subst same
        rw [if_pos rfl] at front
        have rest : as ≠ bs := by
          rintro rfl
          exact apart rfl
        exact .inr ⟨rfl, ih front rest⟩
      · rw [if_neg same, decide_eq_true_iff] at front
        exact .inl front

theorem partsLe_sorted (items : List (List α)) :
    (items.mergeSort partsLe).Pairwise fun first second => partsLe first second = true :=
  List.pairwise_mergeSort partsLe_trans partsLe_total items

theorem sorted_unique {first second : List (List α)}
    (one : first.Pairwise fun a b => partsLe a b = true)
    (two : second.Pairwise fun a b => partsLe a b = true) (distinct : first.Nodup)
    (also : second.Nodup) (same : ∀ parts, parts ∈ first ↔ parts ∈ second) : first = second := by
  have perm : first.Perm second := (List.perm_ext_iff_of_nodup distinct also).mpr same
  exact perm.eq_of_pairwise (fun a b _ _ => partsLe_antisymm a b) one two

end EndpointCatalog.Text
