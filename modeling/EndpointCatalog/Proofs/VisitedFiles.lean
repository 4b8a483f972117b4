import EndpointCatalog.Proofs.Coverage
import EndpointCatalog.Proofs.RelativeImports
import EndpointCatalog.Proofs.Resolution
import Mathlib

namespace EndpointCatalog.Text

theorem append_dot_ne (name rest : String) : name ++ "." ++ rest ≠ name := by
  intro same
  have size := congrArg String.length same
  have dot : ".".length = 1 := by decide
  rw [String.length_append, String.length_append] at size
  omega

theorem joinDots_cancel (clean : ∀ part ∈ first, Component part)
    (also : ∀ part ∈ second, Component part)
    (same : joinDots (outer ++ first) = joinDots (outer ++ second)) : first = second := by
  have cut (some : first ≠ []) (more : second ≠ []) (joined : joinDots first = joinDots second) :
      first = second := by
    rw [← components_named clean some, ← components_named also more, joined]
  by_cases front : outer = []
  · subst front
    rw [List.nil_append, List.nil_append] at same
    by_cases some : first = []
    · subst some
      by_contra apart
      exact joinDots_named also (Ne.symm apart) same.symm
    · by_cases more : second = []
      · subst more
        exact absurd same (joinDots_named clean some)
      · exact cut some more same
  · by_cases some : first = []
    · subst some
      by_contra apart
      rw [List.append_nil, joinDots_append front (Ne.symm apart)] at same
      exact append_dot_ne _ _ same.symm
    · by_cases more : second = []
      · subst more
        rw [List.append_nil, joinDots_append front some] at same
        exact absurd same (append_dot_ne _ _)
      · rw [joinDots_append front some, joinDots_append front more] at same
        exact cut some more ((String.append_right_inj _).mp same)

end EndpointCatalog.Text

namespace EndpointCatalog.Symbol

open Files (Path Tree Node)
open Text (Component joinDots)

-- A file below a directory with the ending of a source, in no ignored directory.
structure SourceFile (directory : Node) (parts : List String) : Prop where
  file : ∃ content, directory.find? parts = some (.file content)
  named : ∃ dirs stem, parts = dirs ++ [stem ++ ".py"] ∧ ∀ dir ∈ dirs, dir ∉ ignoredDirectories

def Undisguised (directory : Node) : Prop :=
  ∀ dirs stem below, directory.find? (dirs ++ [stem ++ ".py"]) ≠ some (.directory below)

theorem isSource_iff : isSource parts = true ↔
    ∃ dirs stem, parts = dirs ++ [stem ++ ".py"] ∧ ∀ dir ∈ dirs, dir ∉ ignoredDirectories := by
  constructor
  · intro source
    have some := source_nonempty source
    rw [← List.dropLast_append_getLast some] at source ⊢
    generalize parts.dropLast = dirs at source ⊢
    generalize parts.getLast some = name at source ⊢
    simp only [isSource, List.getLastD_concat, List.dropLast_concat, Bool.and_eq_true,
      List.isSuffixOf_iff_suffix, Bool.not_eq_true', List.any_eq_false, List.contains_iff_mem]
      at source
    obtain ⟨⟨stem, ends⟩, kept⟩ := source
    refine ⟨dirs, String.ofList stem, ?_, kept⟩
    have same : String.ofList stem ++ ".py" = name := by
      apply String.toList_inj.mp
      rw [String.toList_append, String.toList_ofList, ends]
    rw [same]
  · rintro ⟨dirs, stem, rfl, kept⟩
    simpa [isSource] using kept

theorem mem_sources {directory : Node} (proper : directory.Proper) (plain : Undisguised directory) :
    parts ∈ sourcesBelow directory ↔ SourceFile directory parts := by
  rw [source_found proper, isSource_iff]
  constructor
  · rintro ⟨⟨below, found⟩, named⟩
    refine ⟨?_, named⟩
    obtain ⟨dirs, stem, rfl, -⟩ := named
    cases below with
    | file content => exact ⟨content, found⟩
    | directory entries => exact absurd found (plain dirs stem entries)
  · rintro ⟨⟨content, found⟩, named⟩
    exact ⟨⟨_, found⟩, named⟩

theorem sources_increase {directory : Node} (proper : directory.Proper) :
    (sourcesBelow directory).Pairwise (· < ·) :=
  (sourcesBelow_sorted directory).imp₂ (fun _ _ front apart => Text.partsLe_lt front apart)
    (sourcesBelow_nodup proper)

inductive PlainSource : List String → Prop where
  | intro (dirs : List String) (stem : String) (clean : ∀ dir ∈ dirs, Component dir)
      (named : Component stem) : PlainSource (dirs ++ [stem ++ ".py"])

def Twins (package module : List String) : Prop :=
  ∃ dirs stem, stem ≠ "__init__" ∧ package = dirs ++ [stem, "__init__.py"] ∧
    module = dirs ++ [stem ++ ".py"]

def moduleParts (dirs : List String) (stem : String) : List String :=
  if stem = "__init__" then dirs else dirs ++ [stem]

theorem homeOf_parts : homeOf (outer ++ (dirs ++ [stem ++ ".py"])) =
    some (joinDots (outer ++ moduleParts dirs stem)) := by
  rw [← List.append_assoc]
  by_cases package : stem = "__init__"
  · subst package
    rw [moduleParts, if_pos rfl]
    exact homeOf_package
  · rw [moduleParts, if_neg package, homeOf_module package, List.append_assoc]

theorem moduleParts_clean (clean : ∀ dir ∈ dirs, Component dir) (named : Component stem) :
    ∀ part ∈ moduleParts dirs stem, Component part := by
  unfold moduleParts
  split
  · exact clean
  · rw [List.forall_mem_append]
    exact ⟨clean, by simpa using named⟩

theorem moduleParts_twins (apart : first ++ [stem ++ ".py"] ≠ second ++ [name ++ ".py"])
    (same : moduleParts first stem = moduleParts second name) :
    Twins (first ++ [stem ++ ".py"]) (second ++ [name ++ ".py"]) ∨
      Twins (second ++ [name ++ ".py"]) (first ++ [stem ++ ".py"]) := by
  unfold moduleParts at same
  by_cases package : stem = "__init__"
  · rw [if_pos package] at same
    by_cases other : name = "__init__"
    · rw [if_pos other] at same
      rw [package, other, same] at apart
      exact absurd rfl apart
    · rw [if_neg other] at same
      subst package same
      exact .inl ⟨second, name, other, by simp, rfl⟩
  · rw [if_neg package] at same
    by_cases other : name = "__init__"
    · rw [if_pos other] at same
      subst other same
      exact .inr ⟨first, stem, package, by simp, rfl⟩
    · rw [if_neg other] at same
      obtain ⟨dirs, stems⟩ := List.append_inj' same rfl
      rw [dirs, (List.cons.inj stems).1] at apart
      exact absurd rfl apart

theorem twins_home (twins : Twins package module) :
    homeOf (outer ++ package) = homeOf (outer ++ module) := by
  obtain ⟨dirs, stem, named, rfl, rfl⟩ := twins
  have split : dirs ++ [stem, "__init__.py"] = (dirs ++ [stem]) ++ ["__init__" ++ ".py"] := by simp
  rw [split, homeOf_parts, homeOf_parts, moduleParts, if_pos rfl, moduleParts, if_neg named]

theorem home_shared (one : PlainSource first) (other : PlainSource second) (apart : first ≠ second) :
    homeOf (outer ++ first) = homeOf (outer ++ second) ↔ Twins first second ∨ Twins second first := by
  constructor
  · intro same
    obtain ⟨dirs, stem, clean, named⟩ := one
    obtain ⟨others, name, also, stemmed⟩ := other
    rw [homeOf_parts, homeOf_parts] at same
    exact moduleParts_twins apart (Text.joinDots_cancel (moduleParts_clean clean named)
      (moduleParts_clean also stemmed) (Option.some.inj same))
  · rintro (twins | twins)
    · exact twins_home twins
    · exact (twins_home twins).symm

theorem twins_lt (twins : Twins package module) : package < module := by
  obtain ⟨dirs, stem, -, rfl, rfl⟩ := twins
  apply List.append_left_lt
  rw [List.cons_lt_cons_iff]
  left
  have longer : stem.toList ++ [] < stem.toList ++ ".py".toList :=
    List.append_left_lt (List.nil_lt_cons _ _)
  rw [List.append_nil] at longer
  rw [String.lt_iff_toList_lt, String.toList_append]
  exact longer

theorem increasing_split {items : List (List String)} (sorted : items.Pairwise (· < ·))
    (one : first ∈ items) (other : second ∈ items) (less : first < second) :
    ∃ front middle back, items = front ++ first :: middle ++ second :: back := by
  obtain ⟨before, back, rfl⟩ := List.append_of_mem other
  rw [List.pairwise_append, List.pairwise_cons] at sorted
  obtain ⟨-, ⟨later, -⟩, -⟩ := sorted
  rcases List.mem_append.mp one with earlier | behind
  · obtain ⟨front, middle, rfl⟩ := List.append_of_mem earlier
    exact ⟨front, middle, back, rfl⟩
  · rcases List.mem_cons.mp behind with rfl | after
    · exact absurd less (List.lt_irrefl _)
    · exact absurd (List.lt_trans less (later first after)) (List.lt_irrefl _)

variable {tree : Tree} {root : Path} {table final : Table} {file package module : Path × String}
  {files front : List (Path × String)}

namespace Table

-- What is found after some records stays, and it was there before or one of them tells of it.
theorem found_earlier {β : Type} (look : Table → Option β) (about : Record → Option β)
    (step : ∀ table entry, look (record table entry) = (look table).or (about entry))
    {records others : List Record} {own : β} (found : look (table.recordAll records) = some own) :
    look (table.recordAll (records ++ others)) = some own ∧
      (look table = some own ∨ ∃ entry ∈ records, about entry = some own) := by
  refine ⟨?_, ?_⟩
  · rw [recordAll_append, first_recordAll look about step, found, Option.some_or]
  · rw [first_recordAll look about step, Option.or_eq_some_iff] at found
    refine found.imp_right fun ⟨_, new⟩ => List.mem_filterMap.mp (List.mem_of_head? new)

theorem declared_earlier {records others : List Record}
    (found : (table.recordAll records).declared? name = some own) :
    (table.recordAll (records ++ others)).declared? name = some own ∧
      (table.declared? name = some own ∨ .declared own ∈ records) := by
  refine (found_earlier (·.declared? name) (·.typeOf? name) (fun _ _ => declared_record)
    found).imp_right ?_
  refine Or.imp_right fun ⟨entry, member, tells⟩ => ?_
  obtain ⟨rfl, -⟩ := Record.typeOf_some tells
  exact member

theorem alias_earlier {records others : List Record}
    (found : (table.recordAll records).alias? name = some own) :
    (table.recordAll (records ++ others)).alias? name = some own ∧
      (table.alias? name = some own ∨ .aliased name own ∈ records) := by
  refine (found_earlier (·.alias? name) (·.targetOf? name) (fun _ _ => alias_record)
    found).imp_right ?_
  refine Or.imp_right fun ⟨entry, member, tells⟩ => ?_
  obtain rfl := Record.targetOf_some tells
  exact member

theorem hop_alias (found : table.alias? name = some target) : table.hop name = some target := by
  unfold hop
  rw [found]

end Table

-- What files record, one after another.
def recorded (tree : Tree) (files : List (Path × String)) : List Record :=
  files.flatMap fun file => (contribution tree file).records

theorem mem_recorded :
    entry ∈ recorded tree files ↔ ∃ file ∈ files, entry ∈ (contribution tree file).records :=
  List.mem_flatMap

theorem recorded_append {others : List (Path × String)} :
    recorded tree (files ++ others) = recorded tree files ++ recorded tree others :=
  List.flatMap_append

-- What the first file declares or imports under a name comes from what was there before, from the
-- files in front of it, or from it; but what the second one declares is found under its name all
-- the same.
structure Precedence (tree : Tree) (table final : Table) (front : List (Path × String))
    (package module : Path × String) : Prop where
  types : ∀ type, .declared type ∈ (contribution tree package).records →
    final.resolve type.qualname = type.qualname ∧
    ∃ own, final.declared? type.qualname = some own ∧
      (table.declared? type.qualname = some own ∨ .declared own ∈ recorded tree (front ++ [package]))
  aliases : ∀ name target, .aliased name target ∈ (contribution tree package).records →
    name ≠ target → ∃ own, final.alias? name = some own ∧ final.hop name = some own ∧
      (table.alias? name = some own ∨ .aliased name own ∈ recorded tree (front ++ [package]))
  declared : ∀ type, .declared type ∈ (contribution tree module).records →
    final.resolve type.qualname = type.qualname

theorem takeFiles_precedence {middle back : List (Path × String)}
    (whole : (table.takeFiles tree (front ++ package :: middle ++ module :: back)).2 = none) :
    Precedence tree table (table.takeFiles tree (front ++ package :: middle ++ module :: back)).1
      front package module := by
  have split : front ++ package :: middle ++ module :: back =
      (front ++ [package]) ++ (middle ++ module :: back) := by simp
  have taken : (table.takeFiles tree (front ++ package :: middle ++ module :: back)).1 =
      (table.recordAll (recorded tree (front ++ [package]) ++
        recorded tree (middle ++ module :: back))).skipAll
          ((front ++ package :: middle ++ module :: back).flatMap fun file =>
            (contribution tree file).skipped) := by
    rw [Table.takeFiles_every (Table.takeFiles_whole.mp whole), Table.takeEvery_contributes,
      ← recorded_append, ← split]
    rfl
  rw [taken]
  constructor
  · intro type own
    have early : .declared type ∈ recorded tree (front ++ [package]) :=
      mem_recorded.mpr ⟨package, by simp, own⟩
    obtain ⟨kept, found⟩ := Option.isSome_iff_exists.mp (Table.recordAll_holds early)
    obtain ⟨stays, source⟩ := Table.declared_earlier found
    exact ⟨Table.resolve_declared (Option.isSome_of_eq_some stays), kept, stays, source⟩
  · intro name target own apart
    have early : .aliased name target ∈ recorded tree (front ++ [package]) :=
      mem_recorded.mpr ⟨package, by simp, own⟩
    obtain ⟨kept, found⟩ :=
      Option.isSome_iff_exists.mp ((Table.recordAll_holds early).resolve_left apart)
    obtain ⟨stays, source⟩ := Table.alias_earlier found
    exact ⟨kept, stays, Table.hop_alias stays, source⟩
  · intro type own
    have late : .declared type ∈ recorded tree (middle ++ module :: back) :=
      mem_recorded.mpr ⟨module, by simp, own⟩
    exact Table.resolve_declared (Table.recordAll_holds (List.mem_append_right _ late))

theorem takeFiles_takeable (found : tree.node root = .ok (.directory entries))
    (proper : tree.top.Proper) :
    (table.takeFiles tree ((sourcesBelow (.directory entries)).map (visitBelow tree root))).2 = none ↔
      ∀ parts ∈ sourcesBelow (.directory entries), Takeable tree (visitBelow tree root parts) := by
  rw [Table.takeFiles_whole, List.forall_mem_map]
  refine forall₂_congr fun parts listed => ?_
  obtain ⟨⟨below, inside⟩, -⟩ := (source_found (Tree.node_proper proper found)).mp listed
  exact contribution_failure (Tree.node_inside proper found inside)

-- Of two files with one module name the package is in front.
theorem sources_visited (proper : tree.top.Proper) (found : tree.node root = .ok (.directory entries))
    (plain : Undisguised (.directory entries)) :
    (∀ parts, parts ∈ sourcesBelow (.directory entries) ↔ SourceFile (.directory entries) parts) ∧
    (sourcesBelow (.directory entries)).Pairwise (· < ·) ∧
    (∀ table : Table, table.takeRoot tree root =
        table.takeFiles tree ((sourcesBelow (.directory entries)).map (visitBelow tree root)) ∧
      ((table.takeRoot tree root).2 = none ↔
        ∀ parts ∈ sourcesBelow (.directory entries), Takeable tree (visitBelow tree root parts))) ∧
    ∀ first ∈ sourcesBelow (.directory entries), ∀ second ∈ sourcesBelow (.directory entries),
      first ≠ second → PlainSource first → PlainSource second →
      (homeOf (packageParts tree root ++ first) = homeOf (packageParts tree root ++ second) ↔
        Twins first second ∨ Twins second first) ∧
      (Twins first second → ∃ front middle back,
        sourcesBelow (.directory entries) = front ++ first :: middle ++ second :: back ∧
        ∀ table : Table, (table.takeRoot tree root).2 = none →
          Precedence tree table (table.takeRoot tree root).1 (front.map (visitBelow tree root))
            (visitBelow tree root first) (visitBelow tree root second)) := by
  have below := Tree.node_proper proper found
  have taken (table : Table) : table.takeRoot tree root =
      table.takeFiles tree ((sourcesBelow (.directory entries)).map (visitBelow tree root)) := by
    rw [Table.takeRoot_visits, visits_directory found]
  refine ⟨fun parts => mem_sources below plain, sources_increase below, fun table => ⟨taken table, ?_⟩,
    fun first one second other apart clean also => ⟨home_shared clean also apart, fun twins => ?_⟩⟩
  · rw [taken table]
    exact takeFiles_takeable found proper
  · obtain ⟨front, middle, back, split⟩ :=
      increasing_split (sources_increase below) one other (twins_lt twins)
    refine ⟨front, middle, back, split, fun table whole => ?_⟩
    rw [taken table, split, List.map_append, List.map_append, List.map_cons, List.map_cons] at whole ⊢
    exact takeFiles_precedence whole

def twinPackage : String := "from y import A\nclass B: pass\n"

def twinModule : String := "class A: pass\nclass B: pass\n"

def twinEntries : List (String × Node) :=
  [("y.py", .file "class A: pass\n".toUTF8.toList), ("x.py", .file twinModule.toUTF8.toList),
    ("venv", .directory [("z.py", .file [])]),
    ("x", .directory [("__init__.py", .file twinPackage.toUTF8.toList)])]

def twinTree : Tree := ⟨.directory twinEntries, []⟩

def packagePath : Path := ⟨.relative, ["x", "__init__.py"]⟩

def modulePath : Path := ⟨.relative, ["x.py"]⟩

def keptType : TypeDecl := ⟨"x.B", "B", "x", [], [], [], none, some packagePath, 2⟩

def overtakingType : TypeDecl := ⟨"x.A", "A", "x", [], [], [], none, some modulePath, 1⟩

def twinTable : Table :=
  { Table.empty with
    types := [keptType, overtakingType,
      ⟨"y.A", "A", "y", [], [], [], none, some ⟨.relative, ["y.py"]⟩, 1⟩]
    aliases := [("x.A", "y.A")]
    distinct := by decide }

set_option maxRecDepth 4000 in
theorem twin_recorded : (contribution twinTree (packagePath, "x")).records =
    [.aliased "x.A" "y.A", .declared keptType] := by
  unfold twinTree twinEntries twinPackage packagePath keptType
  cbv

set_option maxRecDepth 4000 in
theorem twin_taken : Table.empty.takeRoot twinTree hereRoot = (twinTable, none) := by
  unfold twinTree twinEntries twinPackage twinModule hereRoot twinTable keptType overtakingType
    packagePath modulePath
  cbv

theorem twin_proper : twinTree.top.Proper := by
  refine Node.proper_directory (by decide) (by decide) ?_
  simp only [twinEntries, List.forall_mem_cons]
  refine ⟨Node.proper_file, Node.proper_file, ?_, ?_, by simp⟩
  · exact Node.proper_directory (by decide) (by decide) (by simpa using Node.proper_file)
  · exact Node.proper_directory (by decide) (by decide) (by simpa using Node.proper_file)

theorem twin_undisguised : Undisguised twinTree.top := by
  intro dirs stem below found
  have place := Node.places_of_find found (by simp)
  have ending : ".py".toList <:+ ((dirs ++ [stem ++ ".py"]).getLastD "").toList := by simp
  generalize dirs ++ [stem ++ ".py"] = parts at found place ending
  have listed : twinTree.top.places = [["y.py"], ["x.py"], ["venv"], ["venv", "z.py"], ["x"],
      ["x", "__init__.py"]] := rfl
  simp only [listed, List.mem_cons, List.not_mem_nil, or_false] at place
  rcases place with rfl | rfl | rfl | rfl | rfl | rfl
  · cases found
  · cases found
  · exact absurd ending (by decide)
  · cases found
  · exact absurd ending (by decide)
  · cases found

theorem twin_sources : sourcesBelow twinTree.top = [["x", "__init__.py"], ["x.py"], ["y.py"]] := by
  unfold twinTree twinEntries
  cbv

theorem twins_named : Twins ["x", "__init__.py"] ["x.py"] := ⟨[], "x", by decide, rfl, rfl⟩

-- The class that the package imports is not found under its name: what the module beside it
-- declares is.
theorem import_overtaken :
    homeOf ["x", "__init__.py"] = some "x" ∧ homeOf ["x.py"] = some "x" ∧
    sourcesBelow twinTree.top = [["x", "__init__.py"], ["x.py"], ["y.py"]] ∧
    .aliased "x.A" "y.A" ∈ (contribution twinTree (packagePath, "x")).records ∧
    Table.empty.takeRoot twinTree hereRoot = (twinTable, none) ∧
    twinTable.declares "y.A" = true ∧ twinTable.resolve "x.A" ≠ "y.A" ∧
    twinTable.get? "x.A" = some overtakingType ∧ overtakingType.path = some modulePath := by
  refine ⟨by cbv, by cbv, twin_sources, ?_, twin_taken, by decide, by decide +kernel, ?_, rfl⟩
  · rw [twin_recorded]
    exact List.mem_cons_self
  · have resolved : twinTable.resolve "x.A" = "x.A" := by decide +kernel
    rw [Table.get?, resolved]
    rfl

theorem twin_visited :
    twinTree.top.Proper ∧ twinTree.node hereRoot = .ok twinTree.top ∧ Undisguised twinTree.top ∧
    ["x", "__init__.py"] ∈ sourcesBelow twinTree.top ∧ ["x.py"] ∈ sourcesBelow twinTree.top ∧
    ["venv", "z.py"] ∉ sourcesBelow twinTree.top ∧
    homeOf ["x", "__init__.py"] = homeOf ["x.py"] ∧
    (Table.empty.takeRoot twinTree hereRoot).2 = none ∧
    (Table.empty.takeRoot twinTree hereRoot).1.declared? "x.B" = some keptType ∧
    (Table.empty.takeRoot twinTree hereRoot).1.hop "x.A" = some "y.A" := by
  have top : twinTree.node hereRoot = .ok (.directory twinEntries) := rfl
  obtain ⟨listed, -, -, shared⟩ := sources_visited twin_proper top twin_undisguised
  have package : ["x", "__init__.py"] ∈ sourcesBelow twinTree.top :=
    (listed _).mpr ⟨⟨_, rfl⟩, ["x"], "__init__", rfl, by decide⟩
  have module : ["x.py"] ∈ sourcesBelow twinTree.top :=
    (listed _).mpr ⟨⟨_, rfl⟩, [], "x", rfl, by decide⟩
  have ignored : ["venv", "z.py"] ∉ sourcesBelow twinTree.top := by
    intro visited
    obtain ⟨-, dirs, stem, parts, kept⟩ := (listed _).mp visited
    have front := congrArg List.dropLast parts
    rw [List.dropLast_concat] at front
    exact kept "venv" (by simp [← front]) (by decide)
  obtain ⟨homes, ordered⟩ := shared _ package _ module (by decide)
    (.intro ["x"] "__init__" (by decide) (by decide)) (.intro [] "x" (by decide) (by decide))
  have whole : (Table.empty.takeRoot twinTree hereRoot).2 = none := by rw [twin_taken]
  obtain ⟨front, middle, back, -, precedence⟩ := ordered twins_named
  have prevails := precedence Table.empty whole
  have recorded : (contribution twinTree (visitBelow twinTree hereRoot ["x", "__init__.py"])).records =
      [.aliased "x.A" "y.A", .declared keptType] := twin_recorded
  obtain ⟨-, own, declared, -⟩ := prevails.types keptType (by simp [recorded])
  obtain ⟨target, aliased, hops, -⟩ := prevails.aliases "x.A" "y.A" (by simp [recorded]) (by decide)
  have kept : own = keptType := by
    rw [twin_taken] at declared
    exact (Option.some.inj declared).symm
  have same : target = "y.A" := by
    rw [twin_taken] at aliased
    exact (Option.some.inj aliased).symm
  refine ⟨twin_proper, rfl, twin_undisguised, package, module, ignored, homes.mpr (.inl twins_named),
    whole, ?_, ?_⟩
  · rw [← kept]
    exact declared
  · rw [← same]
    exact hops

end EndpointCatalog.Symbol
