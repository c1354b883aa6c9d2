import ProtoClass.Proofs.Symbol.Operations

/-!
# Registering a list of names

Names that are registered for the first time are granted one after another, each the next free one in its file
(`find?_grantAll`).  What a file declares in the end depends only on the names that were asked for on its behalf, and
on their order (`declaresAlike_grantAll`).
-/

namespace ProtoClass

/-- A name that is asked for. -/
structure NameRequest where
  name : String
  identity : Identity
  file : String
  kind : SymbolKind

def NameRequest.key (request : NameRequest) : SymbolKey :=
  ⟨request.identity, request.kind⟩

namespace SymbolTable

variable {table table' table'' : SymbolTable} {file : String}

/-- The table in which a name is registered for the first time. -/
def grant (table : SymbolTable) (request : NameRequest) : SymbolTable :=
  table.declare (table.newSymbol request.name request.identity request.file request.kind)

def grantAll (table : SymbolTable) (requests : List NameRequest) : SymbolTable :=
  requests.foldl grant table

/-- Every request becomes one symbol, in order. -/
theorem symbols_grantAll (table : SymbolTable) (requests : List NameRequest) :
    (table.grantAll requests).symbols.map (fun s => (s.key, s.file)) =
      table.symbols.map (fun s => (s.key, s.file)) ++
        requests.map fun request => (⟨request.identity, request.kind⟩, request.file) := by
  induction requests generalizing table with
  | nil => simp [grantAll]
  | cons request rest ih =>
    have hgranted : table.grantAll (request :: rest) = (table.grant request).grantAll rest := rfl
    rw [hgranted, ih, grant, symbols_declare, List.map_append, List.append_assoc]
    rfl

theorem grantAll_append (table : SymbolTable) (requests others : List NameRequest) :
    table.grantAll (requests ++ others) = (table.grantAll requests).grantAll others :=
  List.foldl_append

/-- Granting names with new keys keeps all that a table knows. -/
theorem extends_grantAll {requests : List NameRequest} (hwell : table.WellFormed)
    (hnodup : (requests.map NameRequest.key).Nodup) (hnew : ∀ request ∈ requests, table.find? request.key = none) :
    (table.grantAll requests).WellFormed ∧ Extends table (table.grantAll requests) := by
  induction requests generalizing table with
  | nil => exact ⟨hwell, Extends.refl table⟩
  | cons request rest ih =>
    rw [List.map_cons, List.nodup_cons] at hnodup
    have hstep : Step table (table.grant request) := step_newSymbol (hnew request List.mem_cons_self)
    have hrest : ∀ other ∈ rest, (table.grant request).find? other.key = none := by
      intro other hother
      have hne : other.key ≠ request.key := fun heq => hnodup.1 (heq ▸ List.mem_map_of_mem hother)
      rw [grant, find?_declare_of_ne hne]
      exact hnew other (List.mem_cons_of_mem _ hother)
    obtain ⟨hwell', hextends⟩ := ih (hstep.wellFormed hwell) hnodup.2 hrest
    exact ⟨hwell', hstep.extends.trans hextends⟩

section FromEmpty

variable {before after : List NameRequest}

theorem map_key_grantAll (requests : List NameRequest) :
    (grantAll {} requests).symbols.map Symbol.key = requests.map NameRequest.key := by
  have hmap := congrArg (List.map Prod.fst) (symbols_grantAll {} requests)
  rw [List.map_append, List.map_map, List.map_map, List.map_map] at hmap
  exact hmap

theorem find?_grantAll_of_not_mem {requests : List NameRequest} {key : SymbolKey}
    (h : key ∉ requests.map NameRequest.key) : (grantAll {} requests).find? key = none := by
  refine find?_eq_none.2 fun s hs heq => h ?_
  rw [← map_key_grantAll, ← heq]
  exact List.mem_map_of_mem hs

theorem wellFormed_grantAll {requests : List NameRequest} (hnodup : (requests.map NameRequest.key).Nodup) :
    (grantAll {} requests).WellFormed :=
  (extends_grantAll wellFormed_empty hnodup fun _ _ => rfl).1

/-- Later requests do not change what was granted. -/
theorem extends_grantAll_append (hnodup : ((before ++ after).map NameRequest.key).Nodup) :
    Extends (grantAll {} before) (grantAll {} (before ++ after)) := by
  rw [List.map_append, List.nodup_append] at hnodup
  obtain ⟨hbefore, hafter, hdisjoint⟩ := hnodup
  rw [grantAll_append]
  refine (extends_grantAll (wellFormed_grantAll hbefore) hafter fun request hrequest => ?_).2
  exact find?_grantAll_of_not_mem fun hmem => hdisjoint _ hmem _ (List.mem_map_of_mem hrequest) rfl

/-- A request is granted the name that is free after the requests before it. -/
theorem find?_grantAll {request : NameRequest} (hnodup : ((before ++ request :: after).map NameRequest.key).Nodup) :
    (grantAll {} (before ++ request :: after)).find? request.key =
      some ((grantAll {} before).newSymbol request.name request.identity request.file request.kind) := by
  have hnew : request.key ∉ before.map NameRequest.key := by
    rw [List.map_append, List.nodup_append] at hnodup
    exact fun hmem => hnodup.2.2 _ hmem _ (List.mem_map_of_mem List.mem_cons_self) rfl
  have hsplit : before ++ request :: after = before ++ [request] ++ after := by simp
  rw [hsplit] at hnodup ⊢
  refine (extends_grantAll_append hnodup).find? _ _ ?_
  rw [grantAll_append]
  exact find?_declare_self (find?_grantAll_of_not_mem hnew)

end FromEmpty

/-- A file declares the same in two tables. -/
structure DeclaresAlike (file : String) (table table' : SymbolTable) : Prop where
  declared : table'.declaredIn file = table.declaredIn file
  symbols : table'.symbols.filter (·.file == file) = table.symbols.filter (·.file == file)

theorem DeclaresAlike.refl (file : String) (table : SymbolTable) : DeclaresAlike file table table :=
  ⟨rfl, rfl⟩

theorem DeclaresAlike.trans (h : DeclaresAlike file table table') (h' : DeclaresAlike file table' table'') :
    DeclaresAlike file table table'' :=
  ⟨h'.declared.trans h.declared, h'.symbols.trans h.symbols⟩

theorem DeclaresAlike.symm (h : DeclaresAlike file table table') : DeclaresAlike file table' table :=
  ⟨h.declared.symm, h.symbols.symm⟩

theorem DeclaresAlike.grant {request : NameRequest} (h : DeclaresAlike file table table')
    (hfile : request.file = file) : DeclaresAlike file (table.grant request) (table'.grant request) := by
  have hsymbol : table'.newSymbol request.name request.identity request.file request.kind =
      table.newSymbol request.name request.identity request.file request.kind := by
    unfold newSymbol
    rw [hfile, h.declared]
  constructor
  · rw [SymbolTable.grant, SymbolTable.grant, hsymbol, declaredIn_declare, declaredIn_declare]
    simp only [newSymbol, hfile, h.declared]
  · rw [SymbolTable.grant, SymbolTable.grant, hsymbol, symbols_declare, symbols_declare, List.filter_append,
      List.filter_append, h.symbols]

/-- A name that another file asks for does not matter. -/
theorem declaresAlike_grant_of_ne (table : SymbolTable) {request : NameRequest} (hfile : request.file ≠ file) :
    DeclaresAlike file (table.grant request) table := by
  constructor
  · rw [grant, declaredIn_declare, if_neg]
    exact Ne.symm hfile
  · rw [grant, symbols_declare, List.filter_append]
    simp [newSymbol, hfile]

theorem declaresAlike_grantAll {requests : List NameRequest} (h : DeclaresAlike file table table') :
    DeclaresAlike file (table.grantAll requests) (table'.grantAll (requests.filter (·.file == file))) := by
  induction requests generalizing table table' with
  | nil => exact h
  | cons request rest ih =>
    by_cases hfile : request.file = file
    · rw [List.filter_cons_of_pos (by simpa using hfile)]
      exact ih (h.grant hfile)
    · rw [List.filter_cons_of_neg (by simpa using hfile)]
      exact ih ((declaresAlike_grant_of_ne table hfile).trans h)

/-- If all files declare the same, the same symbols are found. -/
theorem find?_eq_of_declaresAlike (h : table.WellFormed) (h' : table'.WellFormed)
    (halike : ∀ file, DeclaresAlike file table table') (key : SymbolKey) : table'.find? key = table.find? key := by
  ext symbol
  have hmem : symbol ∈ table'.symbols ↔ symbol ∈ table.symbols := by
    have heq := (halike symbol.file).symbols
    constructor
    · intro hsymbol
      have hfiltered : symbol ∈ table.symbols.filter (·.file == symbol.file) :=
        heq ▸ List.mem_filter.2 ⟨hsymbol, by simp⟩
      exact (List.mem_filter.1 hfiltered).1
    · intro hsymbol
      have hfiltered : symbol ∈ table'.symbols.filter (·.file == symbol.file) :=
        heq ▸ List.mem_filter.2 ⟨hsymbol, by simp⟩
      exact (List.mem_filter.1 hfiltered).1
  rw [h'.find?_eq_some_iff, h.find?_eq_some_iff, hmem]

end SymbolTable

end ProtoClass
