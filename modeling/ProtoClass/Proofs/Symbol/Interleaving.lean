import Mathlib.Logic.Function.Basic
import ProtoClass.Proofs.Symbol.Scopes

/-!
# Files resolved in parallel

Workers share one symbol table, and each resolves names on behalf of a file of its own.  A call is not one action: the
symbol is looked up first, and one of another file is imported afterwards, so that the actions of other workers can come
in between.

* Whatever a worker does cannot be seen from any other file (`Worker.Acts.sameElsewhere`), and what a worker answers
  depends on what the table looks like from its file only (`Worker.finish_of_looksAlike`).
* So at every moment each worker, left alone from then on, would give the answers that it gives if it is alone from the
  start (`Workshop.OnCourse`), in whatever order the workers act (`resolving_interleaves`).
-/

namespace ProtoClass.SymbolTable

/-- Names to be resolved on behalf of a file, one after the other. -/
structure Task where
  file : String
  keys : List SymbolKey

/-- Resolves symbols on behalf of a file, one after the other, and keeps all outcomes. -/
def resolveAll (file : String) (keys : List SymbolKey) : StateM SymbolTable (List (Except GenError String)) :=
  keys.mapM fun key => (Gen.resolve (.file file) key.identity key.kind).run

/-- Somebody who resolves names on behalf of a file. -/
structure Worker where
  file : String
  /-- the symbols still to be looked up -/
  keys : List SymbolKey
  /-- a symbol of another file that was looked up and is still to be imported -/
  found : Option Symbol := none
  /-- the outcomes so far -/
  answers : List (Except GenError String) := []

namespace Worker

/-- Nothing is left to do. -/
def Done (worker : Worker) : Prop :=
  worker.found = none ∧ worker.keys = []

/-- One action: the import that is due, or else the next look-up, which is the whole call unless the symbol has to be
imported. -/
def act (worker : Worker) (table : SymbolTable) : Worker × SymbolTable :=
  match worker.found, worker.keys with
  | some symbol, _ =>
    let imported := table.importInto worker.file symbol
    ({ worker with found := none, answers := worker.answers ++ [.ok imported.1] }, imported.2)
  | none, key :: keys =>
    match table.lookup key.identity key.kind with
    | .error e => ({ worker with keys, answers := worker.answers ++ [.error e] }, table)
    | .ok symbol =>
      if symbol.file = worker.file then
        ({ worker with keys, answers := worker.answers ++ [.ok symbol.name] }, table)
      else ({ worker with keys, found := some symbol }, table)
  | none, [] => (worker, table)

/-- What a worker answers in the end, and the table it leaves, if nobody else acts from now on. -/
def finish (worker : Worker) (table : SymbolTable) : List (Except GenError String) × SymbolTable :=
  match worker.found with
  | none =>
    let later := (resolveAll worker.file worker.keys).run table
    (worker.answers ++ later.1, later.2)
  | some symbol =>
    let imported := table.importInto worker.file symbol
    let later := (resolveAll worker.file worker.keys).run imported.2
    (worker.answers ++ .ok imported.1 :: later.1, later.2)

end Worker

/-- Workers with the table that they share. -/
structure Workshop (ι : Type) where
  table : SymbolTable
  workers : ι → Worker

namespace Workshop

variable {ι : Type} [DecidableEq ι]

/-- The workers before their first action. -/
def start (table : SymbolTable) (task : ι → Task) : Workshop ι :=
  ⟨table, fun i => { file := (task i).file, keys := (task i).keys }⟩

/-- One action of one worker. -/
def act (shop : Workshop ι) (i : ι) : Workshop ι :=
  let next := (shop.workers i).act shop.table
  ⟨next.2, Function.update shop.workers i next.1⟩

/-- The workers act in the order of a schedule. -/
def run (shop : Workshop ι) (schedule : List ι) : Workshop ι :=
  schedule.foldl act shop

end Workshop

/-! ### Resolving one name after the other -/

variable {table table' : SymbolTable} {file : String}

theorem run_resolveAll_cons (key : SymbolKey) (keys : List SymbolKey) :
    (resolveAll file (key :: keys)).run table =
      (((Gen.resolve (.file file) key.identity key.kind).run table).1 ::
          ((resolveAll file keys).run ((Gen.resolve (.file file) key.identity key.kind).run table).2).1,
        ((resolveAll file keys).run ((Gen.resolve (.file file) key.identity key.kind).run table).2).2) := by
  unfold resolveAll
  rw [List.mapM_cons]
  rfl

theorem importInto_known {symbol : Symbol} {known : String}
    (h : (table.importsOf file).localNames.lookup symbol.key = some known) :
    table.importInto file symbol = (known, table) := by
  simp [importInto, h]

theorem importInto_new {symbol : Symbol} (h : (table.importsOf file).localNames.lookup symbol.key = none) :
    table.importInto file symbol =
      (table.newLocalName file symbol, table.addImport file symbol (table.newLocalName file symbol)) := by
  simp [importInto, h, newLocalName]

theorem sameElsewhere_importInto (table : SymbolTable) (file : String) (symbol : Symbol) :
    SameElsewhere file table (table.importInto file symbol).2 := by
  rcases h : (table.importsOf file).localNames.lookup symbol.key with _ | known
  · rw [importInto_new h]
    exact (SameElsewhere.refl file table).addImport
  · rw [importInto_known h]
    exact SameElsewhere.refl file table

/-- The name that a file gets for a symbol depends on what the table looks like from the file only. -/
theorem importInto_of_looksAlike (h : LooksAlike file table table') (symbol : Symbol) :
    (table'.importInto file symbol).1 = (table.importInto file symbol).1 ∧
      LooksAlike file (table.importInto file symbol).2 (table'.importInto file symbol).2 := by
  rcases hname : (table.importsOf file).localNames.lookup symbol.key with _ | known
  · have hname' : (table'.importsOf file).localNames.lookup symbol.key = none := by rw [h.imports, hname]
    rw [importInto_new hname, importInto_new hname']
    exact ⟨by rw [newLocalName, newLocalName, h.declared, h.imports], h.addImport⟩
  · have hname' : (table'.importsOf file).localNames.lookup symbol.key = some known := by rw [h.imports, hname]
    rw [importInto_known hname, importInto_known hname']
    exact ⟨rfl, h⟩

theorem resolve_of_looksAlike (h : LooksAlike file table table') (key : SymbolKey) :
    ((Gen.resolve (.file file) key.identity key.kind).run table').1 =
        ((Gen.resolve (.file file) key.identity key.kind).run table).1 ∧
      LooksAlike file ((Gen.resolve (.file file) key.identity key.kind).run table).2
        ((Gen.resolve (.file file) key.identity key.kind).run table').2 := by
  have hlookup : table'.lookup key.identity key.kind = table.lookup key.identity key.kind := by
    unfold lookup
    rw [h.find?]
  rw [Gen.run_resolve_file, Gen.run_resolve_file, hlookup]
  rcases table.lookup key.identity key.kind with e | symbol
  · exact ⟨rfl, h⟩
  · dsimp only
    split
    · exact ⟨rfl, h⟩
    · obtain ⟨hname, hlooks⟩ := importInto_of_looksAlike h symbol
      exact ⟨congrArg Except.ok hname, hlooks⟩

theorem resolveAll_of_looksAlike (h : LooksAlike file table table') (keys : List SymbolKey) :
    ((resolveAll file keys).run table').1 = ((resolveAll file keys).run table).1 ∧
      LooksAlike file ((resolveAll file keys).run table).2 ((resolveAll file keys).run table').2 := by
  induction keys generalizing table table' with
  | nil => exact ⟨rfl, h⟩
  | cons key keys ih =>
    obtain ⟨hname, hlooks⟩ := resolve_of_looksAlike h key
    obtain ⟨hlater, hend⟩ := ih hlooks
    rw [run_resolveAll_cons, run_resolveAll_cons]
    exact ⟨by rw [hname, hlater], hend⟩

/-! ### Single workers -/

namespace Worker

/-- What an action can be: importing what was found, a look-up that fails, one that gives the name of a symbol of the
file itself, one that finds a symbol to be imported, or nothing. -/
inductive Acts (table : SymbolTable) : Worker → Worker × SymbolTable → Prop
  | imports {file : String} {keys : List SymbolKey} {symbol : Symbol} {answers : List (Except GenError String)} :
      Acts table ⟨file, keys, some symbol, answers⟩
        (⟨file, keys, none, answers ++ [.ok (table.importInto file symbol).1]⟩, (table.importInto file symbol).2)
  | fails {file : String} {key : SymbolKey} {keys : List SymbolKey} {answers : List (Except GenError String)}
      {e : GenError} (hlookup : table.lookup key.identity key.kind = .error e) :
      Acts table ⟨file, key :: keys, none, answers⟩ (⟨file, keys, none, answers ++ [.error e]⟩, table)
  | names {file : String} {key : SymbolKey} {keys : List SymbolKey} {answers : List (Except GenError String)}
      {symbol : Symbol} (hlookup : table.lookup key.identity key.kind = .ok symbol) (hfile : symbol.file = file) :
      Acts table ⟨file, key :: keys, none, answers⟩ (⟨file, keys, none, answers ++ [.ok symbol.name]⟩, table)
  | finds {file : String} {key : SymbolKey} {keys : List SymbolKey} {answers : List (Except GenError String)}
      {symbol : Symbol} (hlookup : table.lookup key.identity key.kind = .ok symbol) (hfile : symbol.file ≠ file) :
      Acts table ⟨file, key :: keys, none, answers⟩ (⟨file, keys, some symbol, answers⟩, table)
  | rests {file : String} {answers : List (Except GenError String)} :
      Acts table ⟨file, [], none, answers⟩ (⟨file, [], none, answers⟩, table)

theorem acts (worker : Worker) (table : SymbolTable) : Acts table worker (worker.act table) := by
  obtain ⟨file, keys, found, answers⟩ := worker
  rcases found with _ | symbol
  · rcases keys with _ | ⟨key, keys⟩
    · exact .rests
    · rcases hlookup : table.lookup key.identity key.kind with e | symbol
      · simpa [act, hlookup] using Acts.fails hlookup
      · by_cases hfile : symbol.file = file
        · simpa [act, hlookup, hfile] using Acts.names hlookup hfile
        · simpa [act, hlookup, hfile] using Acts.finds hlookup hfile
  · exact .imports

variable {worker : Worker} {next : Worker × SymbolTable}

theorem Acts.file_eq (h : Acts table worker next) : next.1.file = worker.file := by
  cases h <;> rfl

/-- The imports of the own file are all that an action changes. -/
theorem Acts.sameElsewhere (h : Acts table worker next) : SameElsewhere worker.file table next.2 := by
  cases h with
  | imports => exact sameElsewhere_importInto _ _ _
  | fails | names | finds | rests => exact SameElsewhere.refl _ table

theorem Acts.symbols_eq (h : Acts table worker next) :
    next.2.symbols = table.symbols ∧ next.2.declared = table.declared := by
  cases h with
  | @imports file keys symbol answers =>
    rcases hname : (table.importsOf file).localNames.lookup symbol.key with _ | known
    · rw [importInto_new hname]
      exact ⟨rfl, rfl⟩
    · rw [importInto_known hname]
      exact ⟨rfl, rfl⟩
  | fails | names | finds | rests => exact ⟨rfl, rfl⟩

/-- An action is part of what the worker would do alone. -/
theorem Acts.finish_eq (h : Acts table worker next) : next.1.finish next.2 = worker.finish table := by
  cases h with
  | imports => simp [finish]
  | fails hlookup => simp [finish, run_resolveAll_cons, Gen.run_resolve_file, hlookup]
  | names hlookup hfile => simp [finish, run_resolveAll_cons, Gen.run_resolve_file, hlookup, hfile]
  | finds hlookup hfile => simp [finish, run_resolveAll_cons, Gen.run_resolve_file, hlookup, hfile]
  | rests => rfl

/-- The number of actions that are left, at most. -/
def work (worker : Worker) : Nat :=
  2 * worker.keys.length + worker.found.toList.length

theorem Acts.work_le (h : Acts table worker next) : next.1.work ≤ worker.work - 1 := by
  cases h <;> simp [work] <;> omega

theorem done_of_work_eq_zero (h : worker.work = 0) : worker.Done := by
  unfold work at h
  have hkeys : worker.keys.length = 0 := by omega
  have hfound : worker.found.toList.length = 0 := by omega
  exact ⟨by simpa using hfound, by simpa using hkeys⟩

theorem finish_of_done (h : worker.Done) (table : SymbolTable) : worker.finish table = (worker.answers, table) := by
  obtain ⟨hfound, hkeys⟩ := h
  simp only [finish, hfound, hkeys, resolveAll, List.mapM_nil]
  exact Prod.ext (List.append_nil _) rfl

theorem answers_prefix_finish (worker : Worker) (table : SymbolTable) :
    worker.answers <+: (worker.finish table).1 := by
  unfold finish
  split <;> exact List.prefix_append _ _

/-- What a worker would answer alone depends on what the table looks like from its file only. -/
theorem finish_of_looksAlike (h : LooksAlike worker.file table table') :
    (worker.finish table').1 = (worker.finish table).1 ∧
      LooksAlike worker.file (worker.finish table).2 (worker.finish table').2 := by
  unfold finish
  rcases worker.found with _ | symbol
  · obtain ⟨hlater, hlooks⟩ := resolveAll_of_looksAlike h worker.keys
    exact ⟨congrArg (worker.answers ++ ·) hlater, hlooks⟩
  · obtain ⟨hname, himported⟩ := importInto_of_looksAlike h symbol
    obtain ⟨hlater, hlooks⟩ := resolveAll_of_looksAlike himported worker.keys
    exact ⟨by simp only [hname, hlater], hlooks⟩

end Worker

/-! ### All workers together -/

theorem LooksAlike.trans {table'' : SymbolTable} (h : LooksAlike file table table')
    (h' : LooksAlike file table' table'') : LooksAlike file table table'' where
  find? key := (h'.find? key).trans (h.find? key)
  declared := h'.declared.trans h.declared
  imports := h'.imports.trans h.imports

namespace Workshop

variable {ι : Type}

/-- Every worker is on the way to the answers and the imports that its task has if it is alone from the start, and
nothing else has changed. -/
structure OnCourse (origin : SymbolTable) (task : ι → Task) (shop : Workshop ι) : Prop where
  file : ∀ i, (shop.workers i).file = (task i).file
  answers : ∀ i, ((shop.workers i).finish shop.table).1 = ((resolveAll (task i).file (task i).keys).run origin).1
  looks : ∀ i, LooksAlike (task i).file ((resolveAll (task i).file (task i).keys).run origin).2
    ((shop.workers i).finish shop.table).2
  elsewhere : ∀ file, (∀ i, (task i).file ≠ file) → shop.table.importsOf file = origin.importsOf file
  symbols : shop.table.symbols = origin.symbols
  declared : shop.table.declared = origin.declared

theorem onCourse_start (origin : SymbolTable) (task : ι → Task) : OnCourse origin task (start origin task) where
  file _ := rfl
  answers _ := rfl
  looks _ := LooksAlike.refl _ _
  elsewhere _ _ := rfl
  symbols := rfl
  declared := rfl

variable [DecidableEq ι] {origin : SymbolTable} {task : ι → Task} {shop : Workshop ι} {i j : ι}

theorem workers_act_self : (shop.act i).workers i = ((shop.workers i).act shop.table).1 :=
  Function.update_self ..

theorem workers_act_of_ne (h : j ≠ i) : (shop.act i).workers j = shop.workers j :=
  Function.update_of_ne h ..

theorem file_act : ((shop.act i).workers j).file = (shop.workers j).file := by
  by_cases hj : j = i
  · subst hj
    rw [workers_act_self]
    exact ((shop.workers j).acts shop.table).file_eq
  · rw [workers_act_of_ne hj]

/-- Whoever acts, no worker for another file can see it, and the one who acts comes to the same end. -/
theorem finish_act (shop : Workshop ι) (i j : ι)
    (hfiles : j ≠ i → (shop.workers j).file ≠ (shop.workers i).file) :
    (((shop.act i).workers j).finish (shop.act i).table).1 = ((shop.workers j).finish shop.table).1 ∧
      LooksAlike (shop.workers j).file ((shop.workers j).finish shop.table).2
        (((shop.act i).workers j).finish (shop.act i).table).2 := by
  have hacts := (shop.workers i).acts shop.table
  by_cases hj : j = i
  · subst hj
    have hsame : ((shop.act j).workers j).finish (shop.act j).table = (shop.workers j).finish shop.table := by
      rw [workers_act_self]
      exact hacts.finish_eq
    rw [hsame]
    exact ⟨rfl, LooksAlike.refl _ _⟩
  · have hothers := hacts.sameElsewhere
    have hlooks : LooksAlike (shop.workers j).file shop.table (shop.act i).table :=
      ⟨hothers.find?, hothers.declared _, hothers.imports _ (hfiles hj)⟩
    rw [workers_act_of_ne hj]
    exact Worker.finish_of_looksAlike hlooks

theorem OnCourse.act (h : OnCourse origin task shop) (hfiles : Function.Injective fun i => (task i).file) (i : ι) :
    OnCourse origin task (shop.act i) := by
  have hacts := (shop.workers i).acts shop.table
  have hfinish := fun j => shop.finish_act i j fun hj heq => hj (hfiles (by simpa only [h.file] using heq))
  refine ⟨fun j => ?_, fun j => ?_, fun j => ?_, fun file hfile => ?_, ?_, ?_⟩
  · rw [file_act, h.file j]
  · rw [(hfinish j).1, h.answers j]
  · have hlooks := (hfinish j).2
    rw [h.file j] at hlooks
    exact (h.looks j).trans hlooks
  · have hother : file ≠ (shop.workers i).file := by
      rw [h.file i]
      exact (hfile i).symm
    exact (hacts.sameElsewhere.imports file hother).trans (h.elsewhere file hfile)
  · exact hacts.symbols_eq.1.trans h.symbols
  · exact hacts.symbols_eq.2.trans h.declared

theorem OnCourse.run (h : OnCourse origin task shop) (hfiles : Function.Injective fun i => (task i).file)
    (schedule : List ι) : OnCourse origin task (shop.run schedule) := by
  induction schedule generalizing shop with
  | nil => exact h
  | cons i schedule ih => exact ih (h.act hfiles i)

/-- Every action of a worker leaves it less to do. -/
theorem work_run (shop : Workshop ι) (schedule : List ι) (i : ι) :
    ((shop.run schedule).workers i).work ≤ (shop.workers i).work - schedule.count i := by
  induction schedule generalizing shop with
  | nil => exact Nat.le_refl _
  | cons j schedule ih =>
    have hlater : ((shop.run (j :: schedule)).workers i).work ≤ ((shop.act j).workers i).work - schedule.count i :=
      ih (shop.act j)
    by_cases hj : i = j
    · subst hj
      have hwork := ((shop.workers i).acts shop.table).work_le
      rw [workers_act_self] at hlater
      rw [List.count_cons_self]
      omega
    · rw [workers_act_of_ne hj] at hlater
      rwa [List.count_cons_of_ne (Ne.symm hj)]

end Workshop

/-- Names are resolved on behalf of different files, each file by a worker of its own, in any order of the workers'
actions.  The symbols and the declared names of the table stay as they are.  What a worker has answered is what
resolving its names alone from the start answers first; once it is done, which it is after two actions for each name,
it has given all these answers, and its file has the imports that resolving alone gives it.  The imports of files that
nobody works for stay as they are. -/
theorem resolving_interleaves {ι : Type} [DecidableEq ι] (table : SymbolTable) (task : ι → Task)
    (hfiles : Function.Injective fun i => (task i).file) (schedule : List ι) :
    let shop := (Workshop.start table task).run schedule
    shop.table.symbols = table.symbols ∧ shop.table.declared = table.declared ∧
    (∀ i, (shop.workers i).answers <+: ((resolveAll (task i).file (task i).keys).run table).1) ∧
    (∀ i, 2 * (task i).keys.length ≤ schedule.count i → (shop.workers i).Done) ∧
    (∀ i, (shop.workers i).Done →
      (shop.workers i).answers = ((resolveAll (task i).file (task i).keys).run table).1 ∧
      shop.table.importList (task i).file =
        ((resolveAll (task i).file (task i).keys).run table).2.importList (task i).file) ∧
    (∀ file, (∀ i, (task i).file ≠ file) → shop.table.importList file = table.importList file) := by
  intro shop
  have hcourse : Workshop.OnCourse table task shop := (Workshop.onCourse_start table task).run hfiles schedule
  refine ⟨hcourse.symbols, hcourse.declared, ?_, ?_, ?_, ?_⟩
  · intro i
    rw [← hcourse.answers i]
    exact Worker.answers_prefix_finish _ _
  · intro i hcount
    have hwork : (shop.workers i).work ≤ 2 * (task i).keys.length - schedule.count i :=
      (Workshop.start table task).work_run schedule i
    exact Worker.done_of_work_eq_zero (by omega)
  · intro i hdone
    have hanswers := hcourse.answers i
    have hlooks := hcourse.looks i
    rw [Worker.finish_of_done hdone] at hanswers hlooks
    exact ⟨hanswers, congrArg FileImports.byOrigin hlooks.imports⟩
  · intro file hfile
    exact congrArg FileImports.byOrigin (hcourse.elsewhere file hfile)

/-- Two files that both declare a `Point`, and one of them a `Line`. -/
def twoPoints : SymbolTable where
  symbols := [⟨"Point", "Point", ⟨"a.Point"⟩, "a.proto", .message⟩, ⟨"Line", "Line", ⟨"a.Line"⟩, "a.proto", .message⟩,
    ⟨"Point", "Point", ⟨"b.Point"⟩, "b.proto", .message⟩]
  declared := [("a.proto", ["Line", "Point"]), ("b.proto", ["Point"])]

/-- Each of the two files refers to the `Point` of the other one. -/
def crossed : Bool → Task
  | true => ⟨"a.proto", [⟨⟨"b.Point"⟩, .message⟩, ⟨⟨"a.Line"⟩, .message⟩]⟩
  | false => ⟨"b.proto", [⟨⟨"a.Point"⟩, .message⟩, ⟨⟨"c.Point"⟩, .message⟩, ⟨⟨"a.Line"⟩, .message⟩]⟩

theorem resolving_interleaves_crossed :
    let schedule := [true, false, false, true, false, true, false, false, false, true, false]
    let shop := (Workshop.start twoPoints crossed).run schedule
    Function.Injective (fun i => (crossed i).file) ∧
    -- after two actions both have found a symbol and neither has imported it
    (∀ i, (((Workshop.start twoPoints crossed).run (schedule.take 2)).workers i).found.isSome) ∧
    (∀ i, (shop.workers i).answers = ((resolveAll (crossed i).file (crossed i).keys).run twoPoints).1 ∧
      shop.table.importList (crossed i).file =
        ((resolveAll (crossed i).file (crossed i).keys).run twoPoints).2.importList (crossed i).file) := by
  intro schedule shop
  have hfiles : Function.Injective fun i => (crossed i).file := by
    intro i j heq
    cases i <;> cases j <;> simp [crossed] at heq ⊢
  obtain ⟨_, _, _, hdone, hends, _⟩ := resolving_interleaves twoPoints crossed hfiles schedule
  have hfound : ∀ i, (((Workshop.start twoPoints crossed).run (schedule.take 2)).workers i).found.isSome := by
    intro i
    cases i <;> decide
  have hcount : ∀ i, 2 * (crossed i).keys.length ≤ schedule.count i := by
    intro i
    cases i <;> decide
  exact ⟨hfiles, hfound, fun i => hends i (hdone i (hcount i))⟩

end ProtoClass.SymbolTable
