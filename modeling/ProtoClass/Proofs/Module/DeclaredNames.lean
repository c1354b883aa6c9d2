import Mathlib.Data.List.Induction
import ProtoClass.Proofs.Module.Reservation

/-!
# The names of declarations

The enums and messages of a file get their names before its classes do.  As long as no name has a dollar sign of its
own, the names taken in the file are those that were asked for, each numbered from zero on as often as it was asked for
(`Naming.Tallies`, `tallies_grantAll`), so that the next number is known without a search (`Tallies.firstFree_eq`).  A
class takes the first name that the enums, the messages and the classes before it have left
(`Generator.declared_names_counted`).
-/

namespace ProtoClass

namespace Naming

/-- The taken names are those of a list, each numbered from zero on as often as it occurs. -/
def Tallies (names taken : List String) : Prop :=
  ∀ name, name ∈ taken ↔ ∃ base index, index < names.count base ∧ name = numbered base index

variable {names taken : List String} {name : String}

/-- The next number for a name is the number of times it occurs. -/
theorem Tallies.firstFree_eq (h : Tallies names taken) (hplain : ∀ other ∈ names, '$' ∉ other.toList)
    (hname : '$' ∉ name.toList) : firstFree (numbered name) taken = numbered name (names.count name) := by
  refine Naming.firstFree_eq (numbered_injective name) ?_ ?_
  · intro hmem
    obtain ⟨base, index, hindex, heq⟩ := (h _).1 hmem
    have hbase : base ∈ names := List.count_pos_iff.1 (by omega)
    obtain ⟨rfl, rfl⟩ := eq_of_numbered_eq hname (hplain base hbase) heq
    exact Nat.lt_irrefl _ hindex
  · intro earlier hearlier
    exact (h _).2 ⟨name, earlier, hearlier, rfl⟩

theorem Tallies.concat (h : Tallies names taken) (name : String) :
    Tallies (names ++ [name]) (numbered name (names.count name) :: taken) := by
  have hself : (names ++ [name]).count name = names.count name + 1 := by simp
  have hother : ∀ {base}, base ≠ name → (names ++ [name]).count base = names.count base := by
    intro base hne
    simp [Ne.symm hne]
  intro given
  rw [List.mem_cons, h]
  constructor
  · rintro (rfl | ⟨base, index, hindex, rfl⟩)
    · exact ⟨name, names.count name, by omega, rfl⟩
    · exact ⟨base, index, by rw [List.count_append]; omega, rfl⟩
  · rintro ⟨base, index, hindex, rfl⟩
    by_cases hbase : base = name
    · subst hbase
      rw [hself] at hindex
      rcases Nat.lt_succ_iff_lt_or_eq.1 hindex with hlt | rfl
      · exact Or.inr ⟨base, index, hlt, rfl⟩
      · exact Or.inl rfl
    · rw [hother hbase] at hindex
      exact Or.inr ⟨base, index, hindex, rfl⟩

end Naming

namespace SymbolTable

open Naming (Tallies firstFree numbered)

variable {table table' : SymbolTable} {requests before after : List NameRequest} {request : NameRequest}
  {file name name' : String} {key : SymbolKey}

/-- A file declares what a key stands for under a name. -/
def DeclaresAs (table : SymbolTable) (file : String) (key : SymbolKey) (name : String) : Prop :=
  ∃ s, table.find? key = some s ∧ s.file = file ∧ s.name = name

theorem DeclaresAs.mono (h : table.DeclaresAs file key name) (hextends : Extends table table') :
    table'.DeclaresAs file key name := by
  obtain ⟨s, hs, hrest⟩ := h
  exact ⟨s, hextends.find? key s hs, hrest⟩

theorem DeclaresAs.unique (h : table.DeclaresAs file key name) (h' : table.DeclaresAs file key name') :
    name = name' := by
  obtain ⟨s, hs, _, rfl⟩ := h
  obtain ⟨s', hs', _, rfl⟩ := h'
  rw [Option.some.inj (hs.symm.trans hs')]

theorem WellFormed.declaresAs_iff (h : table.WellFormed) :
    table.DeclaresAs file key name ↔ ∃ s ∈ table.symbols, s.key = key ∧ s.file = file ∧ s.name = name := by
  simp only [DeclaresAs, h.find?_eq_some_iff, and_assoc]

/-- What a file declares is decided by the requests for the file. -/
theorem DeclaresAs.of_filter (hnodup : (requests.map NameRequest.key).Nodup)
    (h : (grantAll {} (requests.filter (·.file == file))).DeclaresAs file key name) :
    (grantAll {} requests).DeclaresAs file key name := by
  have halike : DeclaresAlike file (grantAll {} requests) (grantAll {} (requests.filter (·.file == file))) :=
    declaresAlike_grantAll (DeclaresAlike.refl file {})
  obtain ⟨s, hs, hfile, hname⟩ := h
  obtain ⟨hmem, hkey⟩ := find?_eq_some hs
  have hfiltered : s ∈ (grantAll {} requests).symbols.filter (·.file == file) :=
    halike.symbols ▸ List.mem_filter.2 ⟨hmem, by simpa using hfile⟩
  exact (wellFormed_grantAll hnodup).declaresAs_iff.2 ⟨s, (List.mem_filter.1 hfiltered).1, hkey, hfile, hname⟩

theorem exists_declaresAs (hnodup : (requests.map NameRequest.key).Nodup) (hrequest : request ∈ requests) :
    ∃ name, (grantAll {} requests).DeclaresAs request.file request.key name := by
  obtain ⟨before, after, rfl⟩ := List.append_of_mem hrequest
  exact ⟨_, _, find?_grantAll hnodup, rfl, rfl⟩

theorem file_of_mem_filter (h : request ∈ requests.filter (·.file == file)) : request.file = file := by
  simpa using (List.mem_filter.1 h).2

theorem nodup_filter (hnodup : (requests.map NameRequest.key).Nodup) (file : String) :
    ((requests.filter (·.file == file)).map NameRequest.key).Nodup :=
  hnodup.sublist (List.filter_sublist.map _)

/-- A request for a file is granted the first name that is free after the requests for the file before it. -/
theorem declaresAs_of_split (hnodup : (requests.map NameRequest.key).Nodup)
    (hsplit : requests.filter (·.file == file) = before ++ request :: after) :
    (grantAll {} requests).DeclaresAs file request.key
      (firstFree (numbered request.name) ((grantAll {} before).declaredIn file)) := by
  have hfile : request.file = file := file_of_mem_filter (hsplit ▸ List.mem_append_right before List.mem_cons_self)
  have hfiltered := nodup_filter hnodup file
  refine DeclaresAs.of_filter hnodup ?_
  rw [hsplit] at hfiltered ⊢
  exact ⟨_, find?_grantAll hfiltered, hfile, by rw [← hfile]; rfl⟩

/-- The names taken by the first requests for a file are those that the file declares for them. -/
theorem mem_declaredIn_of_split (hnodup : (requests.map NameRequest.key).Nodup)
    (hsplit : requests.filter (·.file == file) = before ++ after) :
    name ∈ (grantAll {} before).declaredIn file ↔
      ∃ request ∈ before, (grantAll {} requests).DeclaresAs file request.key name := by
  have hfiltered := nodup_filter hnodup file
  rw [hsplit] at hfiltered
  have hbefore : (before.map NameRequest.key).Nodup := by
    rw [List.map_append] at hfiltered
    exact (List.nodup_append.1 hfiltered).1
  have hwell := wellFormed_grantAll hbefore
  have hlater : ∀ {key name}, (grantAll {} before).DeclaresAs file key name →
      (grantAll {} requests).DeclaresAs file key name := by
    intro key name h
    refine DeclaresAs.of_filter hnodup ?_
    rw [hsplit]
    exact h.mono (extends_grantAll_append hfiltered)
  rw [hwell.declared]
  constructor
  · rintro ⟨s, hs, hfile, hname⟩
    have hkey : s.key ∈ before.map NameRequest.key := map_key_grantAll before ▸ List.mem_map_of_mem hs
    obtain ⟨request, hrequest, hkey⟩ := List.mem_map.1 hkey
    exact ⟨request, hrequest, hlater (hwell.declaresAs_iff.2 ⟨s, hs, hkey.symm, hfile, hname⟩)⟩
  · rintro ⟨request, hrequest, hdeclares⟩
    have hfile := file_of_mem_filter (hsplit ▸ List.mem_append_left after hrequest)
    obtain ⟨granted, hgranted⟩ := exists_declaresAs hbefore hrequest
    rw [hfile] at hgranted
    obtain rfl := (hlater hgranted).unique hdeclares
    obtain ⟨s, hs, _, hrest⟩ := hwell.declaresAs_iff.1 hgranted
    exact ⟨s, hs, hrest⟩

/-- The names taken in a file after requests for it, if no name has a dollar sign. -/
theorem tallies_grantAll (hfile : ∀ request ∈ requests, request.file = file)
    (hplain : ∀ request ∈ requests, '$' ∉ request.name.toList) :
    Tallies (requests.map (·.name)) ((grantAll {} requests).declaredIn file) := by
  induction requests using List.reverseRecOn with
  | nil =>
    intro name
    simp [grantAll, declaredIn]
  | append_singleton requests request ih =>
    have hbefore := ih (fun other hother => hfile other (List.mem_append_left _ hother))
      (fun other hother => hplain other (List.mem_append_left _ hother))
    have hnames : ∀ name ∈ requests.map (·.name), '$' ∉ name.toList := by
      intro name hname
      obtain ⟨other, hother, rfl⟩ := List.mem_map.1 hname
      exact hplain other (List.mem_append_left _ hother)
    have hrequest : request ∈ requests ++ [request] := List.mem_append_right _ List.mem_cons_self
    have hgiven := hbefore.firstFree_eq hnames (hplain request hrequest)
    have hdeclared : (grantAll {} (requests ++ [request])).declaredIn file =
        numbered request.name ((requests.map (·.name)).count request.name) ::
          (grantAll {} requests).declaredIn file := by
      obtain rfl := hfile request hrequest
      rw [grantAll_append]
      show ((grantAll {} requests).grant request).declaredIn request.file = _
      rw [grant, declaredIn_declare, ← hgiven]
      exact if_pos rfl
    rw [hdeclared, List.map_append]
    exact hbefore.concat request.name

end SymbolTable

namespace Catalog

open SymbolTable

variable {catalog : Catalog} {file : String}

/-- The enums of a file and then its messages. -/
def schemaKeysOf (catalog : Catalog) (file : String) : List SymbolKey :=
  (catalog.enums.filter (·.file.name == file)).map (fun entry => ⟨entry.identity, .enum⟩) ++
    (catalog.messages.filter (·.file.name == file)).map fun entry => ⟨entry.identity, .message⟩

/-- The classes of a file. -/
def constructorKeysOf (catalog : Catalog) (file : String) : List SymbolKey :=
  (catalog.messages.filter (·.file.name == file)).map fun entry => ⟨entry.identity, .constructorClass⟩

def schemaRequests (catalog : Catalog) (file : String) : List NameRequest :=
  catalog.requestsFor .enum id (catalog.enums.filter (·.file.name == file)) ++
    catalog.requestsFor .message id (catalog.messages.filter (·.file.name == file))

def constructorRequests (catalog : Catalog) (file : String) : List NameRequest :=
  catalog.requestsFor .constructorClass Naming.className (catalog.messages.filter (·.file.name == file))

theorem map_key_requestsFor {α : Type} (kind : SymbolKind) (nameOf : String → String) (entries : List (Entry α)) :
    (catalog.requestsFor kind nameOf entries).map NameRequest.key =
      entries.map fun entry => ⟨entry.identity, kind⟩ := by
  rw [requestsFor, List.map_map]
  rfl

theorem map_key_schemaRequests (catalog : Catalog) (file : String) :
    (catalog.schemaRequests file).map NameRequest.key = catalog.schemaKeysOf file := by
  rw [schemaRequests, List.map_append, map_key_requestsFor, map_key_requestsFor, schemaKeysOf]

theorem map_key_constructorRequests (catalog : Catalog) (file : String) :
    (catalog.constructorRequests file).map NameRequest.key = catalog.constructorKeysOf file :=
  map_key_requestsFor ..

/-- The requests for a file: those of its enums and messages, then those of its classes. -/
theorem filter_requests (catalog : Catalog) (file : String) :
    catalog.requests.filter (·.file == file) = catalog.schemaRequests file ++ catalog.constructorRequests file := by
  have hfilter : ∀ {α : Type} (kind : SymbolKind) (nameOf : String → String) (entries : List (Entry α)),
      (catalog.requestsFor kind nameOf entries).filter (·.file == file) =
        catalog.requestsFor kind nameOf (entries.filter (·.file.name == file)) := by
    intro α kind nameOf entries
    rw [requestsFor, List.filter_map]
    rfl
  rw [requests, List.filter_append, List.filter_append, hfilter, hfilter, hfilter, schemaRequests, constructorRequests,
    List.append_assoc]

theorem name?_of_mem_requestsFor {α : Type} {kind : SymbolKind} {nameOf : String → String} {entries : List (Entry α)}
    (hnames : ∀ entry ∈ entries, ∃ name, catalog.name? entry.identity = some name) {request : NameRequest}
    (h : request ∈ catalog.requestsFor kind nameOf entries) :
    ∃ name, catalog.name? request.identity = some name ∧ request.name = nameOf name := by
  obtain ⟨entry, hentry, rfl⟩ := List.mem_map.1 h
  obtain ⟨name, hname⟩ := hnames entry hentry
  exact ⟨name, hname, by rw [hname]; rfl⟩

theorem Coherent.name?_of_schemaRequest (h : catalog.Coherent) {request : NameRequest}
    (hrequest : request ∈ catalog.schemaRequests file) : catalog.name? request.identity = some request.name := by
  have hname : ∃ name, catalog.name? request.identity = some name ∧ request.name = id name := by
    rcases List.mem_append.1 hrequest with henum | hmessage
    · exact name?_of_mem_requestsFor (fun entry hentry => h.enumNames entry (List.mem_filter.1 hentry).1) henum
    · exact name?_of_mem_requestsFor (fun entry hentry => h.messageNames entry (List.mem_filter.1 hentry).1) hmessage
  obtain ⟨name, hname, hrequest⟩ := hname
  rw [hname, hrequest, id]

theorem Coherent.name?_of_constructorRequest (h : catalog.Coherent) {request : NameRequest}
    (hrequest : request ∈ catalog.constructorRequests file) :
    ∃ name, catalog.name? request.identity = some name ∧ request.name = Naming.className name :=
  name?_of_mem_requestsFor (fun entry hentry => h.messageNames entry (List.mem_filter.1 hentry).1) hrequest

theorem Coherent.nodup_requests (h : catalog.Coherent) : (catalog.requests.map NameRequest.key).Nodup := by
  have hnodup := h.reservations_nodup
  rw [← map_requests, List.map_map] at hnodup
  exact hnodup

/-- An enum or a message is numbered by how often its name was asked for before. -/
theorem Coherent.declaresAs_schemaRequest (h : catalog.Coherent)
    (hplain : ∀ identity name, catalog.name? identity = some name → '$' ∉ name.toList)
    {before after : List NameRequest} {request : NameRequest}
    (hsplit : catalog.schemaRequests file = before ++ request :: after) :
    (grantAll {} catalog.requests).DeclaresAs file request.key
      (Naming.numbered request.name ((before.map (·.name)).count request.name)) := by
  have hall : catalog.requests.filter (·.file == file) =
      before ++ request :: (after ++ catalog.constructorRequests file) := by
    rw [filter_requests, hsplit, List.append_assoc, List.cons_append]
  have hnames : ∀ other ∈ catalog.schemaRequests file, '$' ∉ other.name.toList :=
    fun other hother => hplain _ _ (h.name?_of_schemaRequest hother)
  have htallies : Naming.Tallies (before.map (·.name)) ((grantAll {} before).declaredIn file) := by
    refine tallies_grantAll (fun other hother => ?_) (fun other hother => ?_)
    · exact file_of_mem_filter (hall ▸ List.mem_append_left _ hother)
    · exact hnames other (hsplit ▸ List.mem_append_left _ hother)
  have hgiven := htallies.firstFree_eq
    (fun name hname => by
      obtain ⟨other, hother, rfl⟩ := List.mem_map.1 hname
      exact hnames other (hsplit ▸ List.mem_append_left _ hother))
    (hnames request (hsplit ▸ List.mem_append_right before List.mem_cons_self))
  rw [← hgiven]
  exact declaresAs_of_split h.nodup_requests hall

/-- How often a name was asked for, counted by the keys. -/
theorem Coherent.count_names (h : catalog.Coherent) {requests : List NameRequest}
    (hrequests : requests ⊆ catalog.schemaRequests file) (name : String) :
    (requests.map (·.name)).count name =
      (requests.map NameRequest.key).countP fun other => catalog.name? other.identity = some name := by
  rw [List.count, List.countP_map, List.countP_map]
  refine List.countP_congr fun request hrequest => ?_
  have hname : catalog.name? request.key.identity = some request.name := h.name?_of_schemaRequest (hrequests hrequest)
  simp [hname]

/-- A class is numbered by the first number whose name is not taken. -/
theorem Coherent.declaresAs_constructorRequest (h : catalog.Coherent) {before after : List NameRequest}
    {request : NameRequest} (hsplit : catalog.constructorRequests file = before ++ request :: after) :
    ∃ index, (grantAll {} catalog.requests).DeclaresAs file request.key (Naming.numbered request.name index) ∧
      (∀ other ∈ catalog.schemaRequests file ++ before,
        ¬(grantAll {} catalog.requests).DeclaresAs file other.key (Naming.numbered request.name index)) ∧
      ∀ earlier < index, ∃ other ∈ catalog.schemaRequests file ++ before,
        (grantAll {} catalog.requests).DeclaresAs file other.key (Naming.numbered request.name earlier) := by
  have hall : catalog.requests.filter (·.file == file) =
      (catalog.schemaRequests file ++ before) ++ request :: after := by
    rw [filter_requests, hsplit, List.append_assoc]
  have htaken : ∀ {name}, name ∈ (grantAll {} (catalog.schemaRequests file ++ before)).declaredIn file ↔ _ :=
    mem_declaredIn_of_split h.nodup_requests hall
  have hgiven := declaresAs_of_split h.nodup_requests hall
  have hfree := Naming.firstFree_not_mem (Naming.numbered_injective request.name)
    ((grantAll {} (catalog.schemaRequests file ++ before)).declaredIn file)
  obtain ⟨index, hindex, hearlier⟩ := Naming.exists_firstFree (Naming.numbered request.name)
    ((grantAll {} (catalog.schemaRequests file ++ before)).declaredIn file)
  rw [hindex] at hgiven hfree
  refine ⟨index, hgiven, ?_, fun earlier hlt => htaken.1 (hearlier earlier hlt)⟩
  exact fun other hother hdeclares => hfree (htaken.2 ⟨other, hother, hdeclares⟩)

end Catalog

namespace Generator

open SymbolTable

/-- The names that declarations get, if no enum and no message is called with a dollar sign.  An enum or a message of a
file is numbered by how often its name was used before it in the file.  A class gets the first name that is taken
neither by an enum or a message of the file nor by a class before it. -/
theorem declared_names_counted (generator : Generator)
    (hplain : ∀ identity name, generator.catalog.name? identity = some name → '$' ∉ name.toList) :
    ∃ table, generator.reserve.run {} = (.ok (), table) ∧ ∀ file,
      (∀ before key after, generator.catalog.schemaKeysOf file = before ++ key :: after →
        ∃ name, generator.catalog.name? key.identity = some name ∧
          table.DeclaresAs file key
            (Naming.numbered name (before.countP fun other => generator.catalog.name? other.identity = some name))) ∧
      ∀ before key after, generator.catalog.constructorKeysOf file = before ++ key :: after →
        ∃ name index, generator.catalog.name? key.identity = some name ∧
          table.DeclaresAs file key (Naming.numbered (name ++ "Class") index) ∧
          (∀ other ∈ generator.catalog.schemaKeysOf file ++ before,
            ¬table.DeclaresAs file other (Naming.numbered (name ++ "Class") index)) ∧
          ∀ earlier < index, ∃ other ∈ generator.catalog.schemaKeysOf file ++ before,
            table.DeclaresAs file other (Naming.numbered (name ++ "Class") earlier) := by
  have hcoherent : generator.catalog.Coherent := Catalog.coherent_ofSchema generator.schema
  refine ⟨_, Catalog.run_reserve_eq hcoherent, fun file => ⟨?_, ?_⟩⟩
  · intro before key after hkeys
    rw [← Catalog.map_key_schemaRequests] at hkeys
    obtain ⟨earlier, others, hsplit, rfl, hothers⟩ := List.map_eq_append_iff.1 hkeys
    obtain ⟨request, later, rfl, rfl, rfl⟩ := List.map_eq_cons_iff.1 hothers
    have hearlier : earlier ⊆ generator.catalog.schemaRequests file := by
      rw [hsplit]
      exact List.subset_append_left _ _
    have hrequest : request ∈ generator.catalog.schemaRequests file := by simp [hsplit]
    refine ⟨request.name, hcoherent.name?_of_schemaRequest hrequest, ?_⟩
    rw [← hcoherent.count_names hearlier]
    exact hcoherent.declaresAs_schemaRequest hplain hsplit
  · intro before key after hkeys
    rw [← Catalog.map_key_constructorRequests] at hkeys
    obtain ⟨earlier, others, hsplit, rfl, hothers⟩ := List.map_eq_append_iff.1 hkeys
    obtain ⟨request, later, rfl, rfl, rfl⟩ := List.map_eq_cons_iff.1 hothers
    have hrequest : request ∈ generator.catalog.constructorRequests file := by simp [hsplit]
    obtain ⟨name, hname, hclass⟩ := hcoherent.name?_of_constructorRequest hrequest
    obtain ⟨index, hgiven, hfree, htaken⟩ := hcoherent.declaresAs_constructorRequest hsplit
    rw [hclass] at hgiven hfree htaken
    rw [← Catalog.map_key_schemaRequests, ← List.map_append]
    refine ⟨name, index, hname, hgiven, ?_, ?_⟩
    · intro key hkey
      obtain ⟨other, hother, rfl⟩ := List.mem_map.1 hkey
      exact hfree other hother
    · intro number hnumber
      obtain ⟨other, hother, hdeclares⟩ := htaken number hnumber
      exact ⟨other.key, List.mem_map_of_mem hother, hdeclares⟩

/-- A schema in which a message is called like a message inside another, and one like a class. -/
def boxes : Generator where
  schema := ⟨[{ name := "box.proto"
                messages :=
                  [{ name := "Box", messages := [{ name := "Lid" }] },
                   { name := "Box_Lid" },
                   { name := "BoxClass" }] }]⟩
  config := {}

theorem declared_names_counted_boxes :
    (∀ identity name, boxes.catalog.name? identity = some name → '$' ∉ name.toList) ∧
      ∃ table, boxes.reserve.run {} = (.ok (), table) ∧
        table.DeclaresAs "box.proto" ⟨⟨"Box_Lid"⟩, .message⟩ "Box_Lid$1" ∧
        table.DeclaresAs "box.proto" ⟨⟨"BoxClass"⟩, .message⟩ "BoxClass" ∧
        ∃ index, table.DeclaresAs "box.proto" ⟨⟨"Box"⟩, .constructorClass⟩ (Naming.numbered "BoxClass" index) ∧
          0 < index := by
  have hplain : ∀ identity name, boxes.catalog.name? identity = some name → '$' ∉ name.toList := by
    intro identity name hname
    have hall : ∀ item ∈ boxes.catalog.names, '$' ∉ item.2.toList := by decide +kernel
    obtain ⟨before, after, hnames, _⟩ := List.lookup_eq_some_iff.1 hname
    exact hall (identity, name) (by simp [hnames])
  obtain ⟨table, hrun, hfile⟩ := declared_names_counted boxes hplain
  obtain ⟨hschema, hclasses⟩ := hfile "box.proto"
  have hkeys : boxes.catalog.schemaKeysOf "box.proto" =
      [⟨⟨"Box"⟩, .message⟩, ⟨⟨"Box.Lid"⟩, .message⟩, ⟨⟨"Box_Lid"⟩, .message⟩, ⟨⟨"BoxClass"⟩, .message⟩] := by
    decide +kernel
  have hconstructors : boxes.catalog.constructorKeysOf "box.proto" =
      [⟨⟨"Box"⟩, .constructorClass⟩, ⟨⟨"Box.Lid"⟩, .constructorClass⟩, ⟨⟨"Box_Lid"⟩, .constructorClass⟩,
        ⟨⟨"BoxClass"⟩, .constructorClass⟩] := by
    decide +kernel
  obtain ⟨lid, hlid, hlidDeclared⟩ := hschema [⟨⟨"Box"⟩, .message⟩, ⟨⟨"Box.Lid"⟩, .message⟩] _ _ hkeys
  obtain ⟨box, hbox, hboxDeclared⟩ :=
    hschema [⟨⟨"Box"⟩, .message⟩, ⟨⟨"Box.Lid"⟩, .message⟩, ⟨⟨"Box_Lid"⟩, .message⟩] _ _ hkeys
  obtain ⟨name, index, hname, hdeclared, hfree, _⟩ := hclasses [] _ _ hconstructors
  obtain rfl : "Box_Lid" = lid := Option.some.inj (Eq.trans (by decide +kernel) hlid)
  obtain rfl : "BoxClass" = box := Option.some.inj (Eq.trans (by decide +kernel) hbox)
  obtain rfl : "Box" = name := Option.some.inj (Eq.trans (by decide +kernel) hname)
  have hlidNumber : Naming.numbered "Box_Lid" (([⟨⟨"Box"⟩, .message⟩, ⟨⟨"Box.Lid"⟩, .message⟩] : List SymbolKey).countP
      fun other => boxes.catalog.name? other.identity = some "Box_Lid") = "Box_Lid$1" := by decide +kernel
  have hboxNumber : Naming.numbered "BoxClass" (([⟨⟨"Box"⟩, .message⟩, ⟨⟨"Box.Lid"⟩, .message⟩,
      ⟨⟨"Box_Lid"⟩, .message⟩] : List SymbolKey).countP
      fun other => boxes.catalog.name? other.identity = some "BoxClass") = "BoxClass" := by decide +kernel
  rw [hlidNumber] at hlidDeclared
  rw [hboxNumber] at hboxDeclared
  refine ⟨hplain, table, hrun, hlidDeclared, hboxDeclared, index, hdeclared, Nat.pos_of_ne_zero ?_⟩
  rintro rfl
  exact hfree ⟨⟨"BoxClass"⟩, .message⟩ (by simp [hkeys]) hboxDeclared

end Generator

end ProtoClass
