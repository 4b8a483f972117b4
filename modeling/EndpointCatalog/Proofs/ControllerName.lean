import EndpointCatalog.Discovery.Application
import Mathlib.Data.List.Forall2

namespace EndpointCatalog.Discovery

structure TokenAt (text before token after : List Char) : Prop where
  parts : text = before ++ token ++ after
  spelled : token.map Char.toLower = controllerToken

theorem tokenAt_length (place : TokenAt text before token after) :
    text.length = (before ++ after).length + controllerToken.length := by
  rw [place.parts, ← place.spelled]
  simp only [List.length_append, List.length_map]
  omega

theorem beginsToken_sound (begins : beginsToken text = true) :
    TokenAt text [] (text.take controllerToken.length) (text.drop controllerToken.length) := by
  refine ⟨?_, of_decide_eq_true begins⟩
  rw [List.nil_append, List.take_append_drop]

theorem beginsToken_complete (place : TokenAt text [] token after) : beginsToken text = true := by
  obtain ⟨parts, spelled⟩ := place
  have size : token.length = controllerToken.length := by
    rw [← spelled, List.length_map]
  simp [beginsToken, parts, ← size, spelled]

theorem tokenAt_later (late : beginsToken (c :: text) ≠ true)
    (place : TokenAt (c :: text) before token after) :
    ∃ front, before = c :: front ∧ TokenAt text front token after := by
  cases before with
  | nil => exact absurd (beginsToken_complete place) late
  | cons first front =>
    obtain ⟨parts, spelled⟩ := place
    obtain ⟨rfl, inside⟩ := List.cons_eq_cons.mp parts
    exact ⟨front, rfl, inside, spelled⟩

theorem cutToken_first (cut : cutToken? text = some rest) :
    ∃ before token after, TokenAt text before token after ∧ rest = before ++ after ∧
      ∀ front word back, TokenAt text front word back → before.length ≤ front.length := by
  induction text generalizing rest with
  | nil => cases cut
  | cons c text ih =>
    unfold cutToken? at cut
    by_cases begins : beginsToken (c :: text) = true
    · rw [if_pos begins] at cut
      cases cut
      exact ⟨[], _, _, beginsToken_sound begins, rfl, fun _ _ _ _ => Nat.zero_le _⟩
    · rw [if_neg begins] at cut
      obtain ⟨tail, later, rfl⟩ := Option.map_eq_some_iff.mp cut
      obtain ⟨before, token, after, place, rfl, first⟩ := ih later
      refine ⟨c :: before, token, after, ⟨by simp [place.parts], place.spelled⟩, rfl, ?_⟩
      intro front word back other
      obtain ⟨front, rfl, inside⟩ := tokenAt_later begins other
      exact Nat.succ_le_succ (first front word back inside)

theorem cutToken_complete (place : TokenAt text before token after) :
    ∃ rest, cutToken? text = some rest := by
  induction text generalizing before with
  | nil =>
    have size := tokenAt_length place
    have positive : 0 < controllerToken.length := by decide
    rw [List.length_nil] at size
    omega
  | cons c text ih =>
    unfold cutToken?
    by_cases begins : beginsToken (c :: text) = true
    · exact ⟨_, if_pos begins⟩
    · rw [if_neg begins]
      obtain ⟨front, -, inside⟩ := tokenAt_later begins place
      obtain ⟨rest, cut⟩ := ih inside
      exact ⟨c :: rest, by rw [cut]; rfl⟩

def Named (identifier : String) : Prop :=
  ∃ before token after, TokenAt identifier.toList before token after ∧ before ++ after ≠ []

theorem controllerName_cut :
    controllerName identifier = .ok name ↔
      ∃ rest, cutToken? identifier.toList = some rest ∧ rest ≠ [] ∧ name = String.ofList rest := by
  unfold controllerName withoutToken?
  cases cutToken? identifier.toList with
  | none => simp
  | some rest =>
    by_cases empty : rest = []
    · simp [empty]
    · simp [empty, @eq_comm _ name]

theorem controllerName_named :
    (∃ name, controllerName identifier = .ok name) ↔ Named identifier := by
  simp only [controllerName_cut]
  constructor
  · rintro ⟨name, rest, cut, more, rfl⟩
    obtain ⟨before, token, after, place, rfl, -⟩ := cutToken_first cut
    exact ⟨before, token, after, place, more⟩
  · rintro ⟨before, token, after, place, more⟩
    obtain ⟨rest, cut⟩ := cutToken_complete place
    obtain ⟨front, word, back, first, same, -⟩ := cutToken_first cut
    -- Another token may have been cut than the given one, but as much is left.
    have size := tokenAt_length first
    rw [tokenAt_length place] at size
    refine ⟨String.ofList rest, rest, cut, ?_, rfl⟩
    rw [same]
    intro empty
    rw [empty, List.length_nil] at size
    exact more (List.length_eq_zero_iff.mp (by omega))

section Letters

variable {c : Char}

theorem letter_cases (narrow : n < 128) (member : letter ∈ controllerToken) :
    (Char.ofNat n).toLower = letter ↔ Char.ofNat n = letter ∨ Char.ofNat n = letter.toUpper := by
  have each : ∀ n < 128, (controllerToken.all fun letter =>
      decide ((Char.ofNat n).toLower = letter ↔
        Char.ofNat n = letter ∨ Char.ofNat n = letter.toUpper)) = true := by decide +kernel
  exact of_decide_eq_true (List.all_eq_true.mp (each n narrow) letter member)

theorem letters_narrow (member : letter ∈ controllerToken) :
    letter.toNat < 128 ∧ letter.toUpper.toNat < 128 := by
  have each : (controllerToken.all fun letter =>
      decide (letter.toNat < 128 ∧ letter.toUpper.toNat < 128)) = true := by decide
  exact of_decide_eq_true (List.all_eq_true.mp each letter member)

theorem toLower_wide (wide : 128 ≤ c.toNat) : c.toLower = c := by
  have behind : ¬ c.val ≤ 'Z'.val := by
    intro within
    have small : c.toNat ≤ 90 := within
    omega
  exact dif_neg fun capital => behind capital.2

-- No character of another alphabet stands for a letter of the token.
theorem toLower_letter (member : letter ∈ controllerToken) :
    c.toLower = letter ↔ c = letter ∨ c = letter.toUpper := by
  by_cases narrow : c.toNat < 128
  · have cases := letter_cases narrow member
    rwa [Char.ofNat_toNat] at cases
  · obtain ⟨small, capital⟩ := letters_narrow member
    rw [toLower_wide (by omega)]
    refine ⟨.inl, ?_⟩
    rintro (same | rfl)
    · exact same
    · exact absurd capital narrow

end Letters

def SpellsToken (word : List Char) : Prop :=
  List.Forall₂ (fun c letter => c = letter ∨ c = letter.toUpper) word controllerToken

theorem spells_lowered : word.map Char.toLower = controllerToken ↔ SpellsToken word := by
  have each (c letter : Char) (paired : (c, letter) ∈ word.zip controllerToken) :
      c.toLower = letter ↔ c = letter ∨ c = letter.toUpper :=
    toLower_letter (List.of_mem_zip paired).2
  rw [SpellsToken, ← List.forall₂_eq_eq_eq, List.forall₂_map_left_iff, List.forall₂_iff_zip,
    List.forall₂_iff_zip]
  refine and_congr_right fun _ => ⟨fun same c letter paired => ?_, fun spelled c letter paired => ?_⟩
  · exact (each c letter paired).mp (same paired)
  · exact (each c letter paired).mpr (spelled paired)

structure FirstToken (text before token after : List Char) : Prop where
  parts : text = before ++ token ++ after
  spelled : SpellsToken token
  first : ∀ front word back, text = front ++ word ++ back → SpellsToken word →
    before.length ≤ front.length

theorem tokenAt_spelled :
    TokenAt text before token after ↔ text = before ++ token ++ after ∧ SpellsToken token := by
  rw [← spells_lowered]
  exact ⟨fun place => ⟨place.parts, place.spelled⟩, fun place => ⟨place.1, place.2⟩⟩

theorem first_unique (one : FirstToken text before token after)
    (other : FirstToken text front word back) : before = front ∧ token = word ∧ after = back := by
  have begin : before.length = front.length :=
    Nat.le_antisymm (one.first front word back other.parts other.spelled)
      (other.first before token after one.parts one.spelled)
  have size : token.length = word.length :=
    one.spelled.length_eq.trans other.spelled.length_eq.symm
  have parts := one.parts.symm.trans other.parts
  rw [List.append_assoc, List.append_assoc] at parts
  obtain ⟨same, rest⟩ := List.append_inj parts begin
  exact ⟨same, List.append_inj rest size⟩

theorem cutToken_exact :
    cutToken? text = some rest ↔
      ∃ before token after, FirstToken text before token after ∧ rest = before ++ after := by
  have sound {rest : List Char} (cut : cutToken? text = some rest) :
      ∃ before token after, FirstToken text before token after ∧ rest = before ++ after := by
    obtain ⟨before, token, after, place, same, first⟩ := cutToken_first cut
    obtain ⟨parts, spelled⟩ := tokenAt_spelled.mp place
    exact ⟨before, token, after, ⟨parts, spelled, fun front word back other spells =>
      first front word back (tokenAt_spelled.mpr ⟨other, spells⟩)⟩, same⟩
  refine ⟨sound, ?_⟩
  rintro ⟨before, token, after, place, rfl⟩
  obtain ⟨rest, cut⟩ := cutToken_complete (tokenAt_spelled.mpr ⟨place.parts, place.spelled⟩)
  obtain ⟨front, word, back, found, rfl⟩ := sound cut
  obtain ⟨rfl, -, rfl⟩ := first_unique place found
  exact cut

-- The name is what stands around the first token, and no other class name is accepted.
theorem controllerName_leftmost (identifier : String) :
    ((∃ name, controllerName identifier = .ok name) ↔ ∃ before token after,
      identifier.toList = before ++ token ++ after ∧ SpellsToken token ∧ before ++ after ≠ []) ∧
    (∀ name, controllerName identifier = .ok name ↔ ∃ before token after,
      FirstToken identifier.toList before token after ∧ before ++ after ≠ [] ∧
        name = String.ofList (before ++ after)) ∧
    (∀ name, controllerName identifier = .ok name → name.length + 10 = identifier.length) ∧
    ∀ e, controllerName identifier = .error e ↔
      (¬ ∃ name, controllerName identifier = .ok name) ∧ e = ⟨identifier⟩ := by
  have exact (name : String) : controllerName identifier = .ok name ↔ ∃ before token after,
      FirstToken identifier.toList before token after ∧ before ++ after ≠ [] ∧
        name = String.ofList (before ++ after) := by
    rw [controllerName_cut]
    constructor
    · rintro ⟨rest, cut, more, rfl⟩
      obtain ⟨before, token, after, first, rfl⟩ := cutToken_exact.mp cut
      exact ⟨before, token, after, first, more, rfl⟩
    · rintro ⟨before, token, after, first, more, rfl⟩
      exact ⟨_, cutToken_exact.mpr ⟨before, token, after, first, rfl⟩, more, rfl⟩
  refine ⟨?_, exact, fun name accepted => ?_, fun e => ?_⟩
  · rw [controllerName_named, Named]
    simp only [tokenAt_spelled, and_assoc]
  · obtain ⟨before, token, after, first, -, rfl⟩ := (exact name).mp accepted
    have size := tokenAt_length (tokenAt_spelled.mpr ⟨first.parts, first.spelled⟩)
    rw [← String.length_toList, String.toList_ofList, ← String.length_toList, size]
    rfl
  · cases settled : controllerName identifier with
    | ok name => simp
    | error found =>
      have refused : found = ⟨identifier⟩ := by
        unfold controllerName at settled
        split at settled
        · split at settled
          · exact (Except.error.inj settled).symm
          · cases settled
        · exact (Except.error.inj settled).symm
      simp [refused, eq_comm]

-- A token alone is no name.
theorem doubled_leftmost :
    controllerName "MyCONTROLLERcontroller" = .ok "Mycontroller" ∧
    "Mycontroller".length + 10 = "MyCONTROLLERcontroller".length ∧
    controllerName "cONTROLLEr" = .error ⟨"cONTROLLEr"⟩ := by
  obtain ⟨-, -, sized, -⟩ := controllerName_leftmost "MyCONTROLLERcontroller"
  exact ⟨by decide, sized "Mycontroller" (by decide), by decide⟩

end EndpointCatalog.Discovery
