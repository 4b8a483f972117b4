import EndpointCatalog.Proofs.StarImports
import Mathlib.Data.List.Lex

namespace EndpointCatalog.Symbol.Table

open Text (qualify outerName lastName Undotted)

variable {table : Table}

def StarImport (table : Table) (home source : String) : Prop :=
  home ≠ "" ∧ source ∈ table.starSources home

-- Each place is one in the list of the module before.
inductive Runs (table : Table) : String → List Nat → List String → Prop where
  | stop : Runs table home [] []
  | next (named : home ≠ "") (listed : (table.starSources home)[place]? = some source)
      (rest : Runs table source places modules) :
      Runs table home (place :: places) (source :: modules)

theorem runs_chain :
    (∃ places, Runs table home places modules) ↔
      List.IsChain (StarImport table) (home :: modules) := by
  induction modules generalizing home with
  | nil => exact ⟨fun _ => .singleton home, fun _ => ⟨[], .stop⟩⟩
  | cons source modules ih =>
    rw [List.isChain_cons_cons, ← ih]
    constructor
    · rintro ⟨_, runs⟩
      cases runs with
      | next named listed rest => exact ⟨⟨named, List.mem_of_getElem? listed⟩, _, rest⟩
    · rintro ⟨⟨named, member⟩, places, rest⟩
      obtain ⟨place, listed⟩ := List.getElem?_of_mem member
      exact ⟨place :: places, .next named listed rest⟩

theorem runs_unique (runs : Runs table home places modules) (again : Runs table home places others) :
    modules = others := by
  induction runs generalizing others with
  | stop =>
    cases again
    rfl
  | next _ listed _ ih =>
    cases again with
    | next _ same rest =>
      rw [listed] at same
      cases same
      rw [ih rest]

theorem getLastD_append {front back : List α} :
    (front ++ back).getLastD start = back.getLastD (front.getLastD start) := by
  induction front generalizing start with
  | nil => rfl
  | cons first rest ih => rw [List.cons_append, List.getLastD_cons, List.getLastD_cons, ih]

theorem runs_append (front : Runs table start places modules)
    (back : Runs table (modules.getLastD start) others rest) :
    Runs table start (places ++ others) (modules ++ rest) := by
  induction front with
  | stop => exact back
  | next named listed _ ih =>
    rw [List.getLastD_cons] at back
    exact .next named listed (ih back)

-- A chain that passes a module, cut where it passes it for the last time.
theorem runs_last (runs : Runs table start places modules) (through : home ∈ start :: modules) :
    ∃ front passed back rest, places = front ++ back ∧ modules = passed ++ rest ∧
      Runs table start front passed ∧ passed.getLastD start = home ∧
      Runs table home back rest ∧ home ∉ rest := by
  induction runs with
  | @stop start =>
    obtain rfl : home = start := by simpa using through
    exact ⟨[], [], [], [], rfl, rfl, .stop, rfl, .stop, List.not_mem_nil⟩
  | @next start place source places modules named listed rest ih =>
    by_cases again : home ∈ source :: modules
    · obtain ⟨front, passed, back, others, rfl, rfl, before, last, after, never⟩ := ih again
      refine ⟨place :: front, source :: passed, back, others, rfl, rfl, .next named listed before, ?_,
        after, never⟩
      rw [List.getLastD_cons, last]
    · obtain rfl : home = start := (List.mem_cons.mp through).resolve_right again
      exact ⟨[], [], place :: places, source :: modules, rfl, rfl, .stop, rfl,
        .next named listed rest, again⟩

-- A chain of so many modules at most whose last one, or the module itself, knows the name.
def Ends (table : Table) (limit : Nat) (home name : String) (places : List Nat)
    (modules : List String) : Prop :=
  Runs table home places modules ∧ modules.length ≤ limit ∧
    table.knows (qualify (modules.getLastD home) name) = true

-- The order is that of a search that looks at a module before it follows the sources of the module.
def First (chains : List Nat → List String → Prop) (places : List Nat) (modules : List String) :
    Prop :=
  chains places modules ∧ ∀ others passed, chains others passed →
    others = places ∨ List.Lex (· < ·) places others

theorem ends_next : Ends table (limit + 1) home name (place :: places) (source :: modules) ↔
    home ≠ "" ∧ (table.starSources home)[place]? = some source ∧
      Ends table limit source name places modules := by
  constructor
  · rintro ⟨runs, short, known⟩
    rw [List.getLastD_cons] at known
    cases runs with
    | next named listed rest =>
      rw [List.length_cons] at short
      exact ⟨named, listed, rest, by omega, known⟩
  · rintro ⟨named, listed, rest, short, known⟩
    refine ⟨.next named listed rest, ?_, ?_⟩
    · rw [List.length_cons]
      omega
    · rwa [List.getLastD_cons]

-- A search answers with the end of the first chain, and with nothing when there is no chain.
def Answers (chains : List Nat → List String → Prop) (home name : String) (answer : Option String) :
    Prop :=
  match answer with
  | none => ∀ places modules, ¬ chains places modules
  | some next => ∃ places modules, First chains places modules ∧
      next = qualify (modules.getLastD home) name

-- The chains leave the module itself.
def Leaves (table : Table) (limit : Nat) (home name : String) (places : List Nat)
    (modules : List String) : Prop :=
  modules ≠ [] ∧ Ends table limit home name places modules

theorem first_before (first : First chains places modules) (other : chains others passed) :
    ¬ List.Lex (· < ·) others places := by
  intro before
  rcases first.2 others passed other with rfl | after
  · exact (List.Lex.asymm (· < ·)).asymm _ _ before before
  · exact (List.Lex.asymm (· < ·)).asymm _ _ before after

theorem first_unique (first : First (Leaves table limit home name) places modules)
    (again : First (Leaves table limit home name) others passed) : modules = passed := by
  have same : others = places :=
    (first.2 others passed again.1).resolve_right (first_before again first.1)
  subst same
  exact runs_unique first.1.2.1 again.1.2.1

-- A module that knows the name ends the shortest chain, which is before all others.
theorem answers_tries
    (leaving : Answers (Leaves table limit home name) home name
      (table.starHop limit (qualify home name))) :
    Answers (Ends table limit home name) home name (table.tries limit (qualify home name)) := by
  unfold tries
  by_cases known : table.knows (qualify home name) = true
  · rw [if_pos known]
    refine ⟨[], [], ⟨⟨.stop, by simp, known⟩, ?_⟩, rfl⟩
    intro others passed _
    cases others with
    | nil => exact .inl rfl
    | cons place others => exact .inr .nil
  · rw [if_neg known]
    have leaves : ∀ places modules, Ends table limit home name places modules →
        Leaves table limit home name places modules := by
      intro places modules ends
      refine ⟨?_, ends⟩
      rintro rfl
      exact known ends.2.2
    cases answer : table.starHop limit (qualify home name) with
    | none =>
      rw [answer] at leaving
      exact fun places modules ends => leaving places modules (leaves places modules ends)
    | some next =>
      rw [answer] at leaving
      obtain ⟨places, modules, first, same⟩ := leaving
      refine ⟨places, modules, ⟨first.1.2, ?_⟩, same⟩
      exact fun others passed ends => first.2 others passed (leaves others passed ends)

-- One star import further: the first chain goes through the first source from which there is one.
theorem answers_sources (named : home ≠ "")
    (answered : ∀ source, Answers (Ends table limit source name) source name
      (table.tries limit (qualify source name))) :
    Answers (Leaves table (limit + 1) home name) home name
      ((table.starSources home).findSome? fun source =>
        table.tries limit (qualify source name)) := by
  have passed : ∀ source, table.tries limit (qualify source name) = none →
      ∀ places modules, ¬ Ends table limit source name places modules := by
    intro source missed
    have answer := answered source
    rwa [missed] at answer
  cases search : (table.starSources home).findSome? fun source =>
      table.tries limit (qualify source name) with
  | none =>
    rw [List.findSome?_eq_none_iff] at search
    rintro places modules ⟨some, ends⟩
    cases ends.1 with
    | stop => exact some rfl
    | @next _ place source _ _ =>
      obtain ⟨_, listed, rest⟩ := ends_next.mp ends
      exact passed source (search source (List.mem_of_getElem? listed)) _ _ rest
  | some next =>
    obtain ⟨before, source, after, sources, found, missed⟩ := List.findSome?_eq_some_iff.mp search
    have answer := answered source
    rw [found] at answer
    obtain ⟨places, modules, first, rfl⟩ := answer
    have listed : (table.starSources home)[before.length]? = some source := by simp [sources]
    refine ⟨before.length :: places, source :: modules, ⟨⟨by simp, ?_⟩, ?_⟩, ?_⟩
    · exact ends_next.mpr ⟨named, listed, first.1⟩
    · rintro others through ⟨some, ends⟩
      cases ends.1 with
      | stop => exact absurd rfl some
      | @next _ place other others modules =>
        obtain ⟨_, placed, rest⟩ := ends_next.mp ends
        rcases Nat.lt_trichotomy place before.length with sooner | rfl | later
        · rw [sources, List.getElem?_append_left sooner] at placed
          have silent := missed other (List.mem_of_getElem? placed)
          exact absurd rest (passed other silent _ _)
        · rw [listed] at placed
          cases placed
          rcases first.2 _ _ rest with rfl | behind
          · exact .inl rfl
          · exact .inr (.cons behind)
        · exact .inr (.rel later)
    · rw [List.getLastD_cons]

theorem answers_starHop (clean : Undotted name) :
    Answers (Leaves table limit home name) home name
      (table.starHop limit (qualify home name)) := by
  induction limit generalizing home with
  | zero =>
    rintro places modules ⟨some, _, short, _⟩
    exact some (List.length_eq_zero_iff.mp (by omega))
  | succ limit ih =>
    by_cases named : home = ""
    · subst named
      rw [starHop_outermost (by rw [qualify, if_pos rfl, Text.outerName_undotted clean])]
      rintro places modules ⟨some, runs, _⟩
      cases runs with
      | stop => exact some rfl
      | next named _ _ => exact named rfl
    · have outer : outerName (qualify home name) = home := Text.outerName_qualify named clean
      rw [starHop_succ (by rwa [outer]), outer, Text.lastName_qualify clean]
      exact answers_sources named fun source => answers_tries ih

-- There may be chains that are longer than 32 star imports; they do not count.
theorem starHop_first (clean : Undotted name) :
    ((table.starHop hopLimit (qualify home name)).isSome = true ↔
      ∃ modules : List String, 1 ≤ modules.length ∧ modules.length ≤ 32 ∧
        List.IsChain (StarImport table) (home :: modules) ∧
        table.knows (qualify (modules.getLastD home) name) = true) ∧
    ∀ next, table.starHop hopLimit (qualify home name) = some next ↔
      ∃ places modules, First (Leaves table 32 home name) places modules ∧
        next = qualify (modules.getLastD home) name := by
  have answers : Answers (Leaves table 32 home name) home name _ := answers_starHop clean
  change Answers _ _ _ (table.starHop hopLimit _) at answers
  have chains : ∀ modules, (∃ places, Leaves table 32 home name places modules) ↔
      1 ≤ modules.length ∧ modules.length ≤ 32 ∧
        List.IsChain (StarImport table) (home :: modules) ∧
        table.knows (qualify (modules.getLastD home) name) = true := by
    intro modules
    rw [← runs_chain, Nat.one_le_iff_ne_zero, Ne, List.length_eq_zero_iff]
    constructor
    · rintro ⟨places, some, runs, short, known⟩
      exact ⟨some, short, ⟨places, runs⟩, known⟩
    · rintro ⟨some, short, ⟨places, runs⟩, known⟩
      exact ⟨places, some, runs, short, known⟩
  cases found : table.starHop hopLimit (qualify home name) with
  | none =>
    rw [found] at answers
    constructor
    · simp only [← chains]
      exact ⟨nofun, fun ⟨modules, places, leaves⟩ => absurd leaves (answers places modules)⟩
    · intro next
      exact ⟨nofun, fun ⟨places, modules, first, _⟩ => absurd first.1 (answers places modules)⟩
  | some reached =>
    rw [found] at answers
    obtain ⟨places, modules, first, rfl⟩ := answers
    constructor
    · simp only [← chains]
      exact ⟨fun _ => ⟨modules, places, first.1⟩, fun _ => rfl⟩
    · intro next
      rw [Option.some_inj]
      constructor
      · rintro rfl
        exact ⟨places, modules, first, rfl⟩
      · rintro ⟨others, passed, again, rfl⟩
        rw [first_unique first again]

def ringTable : Table :=
  { Table.empty with
    aliases := [("C.x", "y")]
    stars := [("M", ["A", "B"]), ("A", ["M", "C"]), ("B", ["C"])] }

theorem ring_search :
    ringTable.starHop hopLimit "M.x" = some "C.x" ∧
    ∃ places modules, First (Leaves ringTable 32 "M" "x") places modules ∧
      "C.x" = qualify (modules.getLastD "M") "x" := by
  have found : ringTable.starHop hopLimit (qualify "M" "x") = some "C.x" := by decide +kernel
  have clean : Undotted "x" := by decide
  exact ⟨found, ((starHop_first clean).2 "C.x").mp found⟩

def ladderTable (count : Nat) : Table :=
  { Table.empty with
    aliases := [(toString count ++ ".x", "y")]
    stars := (List.range count).map fun step => (toString step, [toString (step + 1)]) }

example : (ladderTable 32).starHop hopLimit "0.x" = some "32.x" := by decide +kernel

example : (ladderTable 33).starHop hopLimit "0.x" = none := by decide +kernel

end EndpointCatalog.Symbol.Table
