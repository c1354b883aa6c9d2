import ProtoClass.Proofs.Module.History

/-!
# Reserving names once and for all

Names can be reserved for every schema, whatever its files and declarations are called.  The first time, each enum of
the catalogue gets one symbol and each message two, and nothing else gets one.  From then on no request registers
anything (`continues_serve`), so that reserving the names again changes nothing (`reserve_once`).
-/

namespace ProtoClass

open SymbolTable

namespace Catalog

variable {catalog : Catalog}

/-- What is registered for a catalogue, with the files: every enum, every message and every class. -/
def reservations (catalog : Catalog) : List (SymbolKey × String) :=
  catalog.enums.map (fun entry => (⟨entry.identity, .enum⟩, entry.file.name)) ++
    (catalog.messages.map (fun entry => (⟨entry.identity, .message⟩, entry.file.name)) ++
      catalog.messages.map fun entry => (⟨entry.identity, .constructorClass⟩, entry.file.name))

theorem map_requests (catalog : Catalog) :
    catalog.requests.map (fun request => ((⟨request.identity, request.kind⟩ : SymbolKey), request.file)) =
      catalog.reservations := by
  simp only [requests, requestsFor, reservations, List.map_append, List.map_map, Function.comp_def]

private theorem keys_nodup {α : Type} {entries : List (Entry α)}
    (h : entries.Pairwise fun a b => a.identity ≠ b.identity) (kind : SymbolKind) :
    (entries.map fun entry => (⟨entry.identity, kind⟩ : SymbolKey)).Nodup := by
  refine List.pairwise_map.2 (h.imp fun hne heq => ?_)
  exact hne (congrArg SymbolKey.identity heq)

/-- Nothing is registered twice, also if a message and an enum have one identity. -/
theorem Coherent.reservations_nodup (h : catalog.Coherent) : (catalog.reservations.map Prod.fst).Nodup := by
  simp only [reservations, List.map_append, List.map_map, Function.comp_def]
  refine List.nodup_append.2 ⟨keys_nodup h.enums .enum,
    List.nodup_append.2 ⟨keys_nodup h.messages .message, keys_nodup h.messages .constructorClass, ?_⟩, ?_⟩
  · simp
  · simp [or_imp, forall_and]

end Catalog

namespace Generator

variable {generator : Generator} {base later : SymbolTable}

/-- Once the names are reserved, no request registers anything, whether it is answered or not. -/
theorem continues_serve (hreserve : generator.catalog.reserve.run {} = (.ok (), base))
    (hregistered : generator.catalog.Registered base) (h : later = {} ∨ Continues base later) (request : Request) :
    Continues base (generator.serve later request) := by
  obtain ⟨middle, hrun, hmiddle⟩ : ∃ middle, generator.catalog.reserve.run later = (.ok (), middle) ∧
      Continues base middle := by
    rcases h with rfl | h
    · exact ⟨base, hreserve, Continues.refl base⟩
    · exact ⟨later, (run_of_continues hreserve hregistered h).1, h⟩
  cases request with
  | reserve =>
    show Continues base (generator.catalog.reserve.run later).2
    rw [hrun]
    exact hmiddle
  | classes =>
    show Continues base (generator.classes.run later).2
    rw [run_classes hrun, generator.classes_resolving.table_eq]
    exact hmiddle
  | modules =>
    show Continues base (generator.modules.run later).2
    rw [run_modules_eq hrun]
    exact hmiddle.trans (generator.catalog.moduleDecls_continues generator.config generator.items middle)

theorem continues_tableAfter (hreserve : generator.catalog.reserve.run {} = (.ok (), base))
    (hregistered : generator.catalog.Registered base) (request : Request) (requests : List Request) :
    Continues base (generator.tableAfter (request :: requests)) := by
  suffices h : ∀ table, Continues base table → Continues base (requests.foldl generator.serve table) from
    h _ (continues_serve hreserve hregistered (Or.inl rfl) request)
  induction requests with
  | nil => exact fun _ htable => htable
  | cons next rest ih =>
    exact fun table htable => ih _ (continues_serve hreserve hregistered (Or.inr htable) next)

/-- Names can be reserved for every schema.  A fresh generator registers exactly what its catalogue asks for.  After
that, and after any other requests, the same symbols are there, and reserving names again changes nothing. -/
theorem reserve_once (generator : Generator) :
    ∃ table, generator.reserve.run {} = (.ok (), table) ∧
      table.symbols.map (fun s => (s.key, s.file)) = generator.catalog.reservations ∧
      (table.symbols.map Symbol.key).Nodup ∧
      ∀ request requests,
        (generator.tableAfter (request :: requests)).symbols = table.symbols ∧
        generator.reserve.run (generator.tableAfter (request :: requests)) =
          (.ok (), generator.tableAfter (request :: requests)) := by
  have hcoherent : generator.catalog.Coherent := Catalog.coherent_ofSchema generator.schema
  obtain ⟨table, hreserve, _, hregistered, _⟩ := Catalog.run_reserve hcoherent
  have hgranted := (Catalog.run_reserve_eq hcoherent).symm.trans hreserve
  have hsymbols : table.symbols.map (fun s => (s.key, s.file)) = generator.catalog.reservations := by
    rw [← (Prod.mk.inj hgranted).2, symbols_grantAll]
    exact generator.catalog.map_requests
  refine ⟨table, hreserve, hsymbols, ?_, fun request requests => ?_⟩
  · have hnodup := hcoherent.reservations_nodup
    rw [← hsymbols, List.map_map] at hnodup
    exact hnodup
  · have hcontinues := continues_tableAfter hreserve hregistered request requests
    exact ⟨hcontinues.symbols, (run_of_continues hreserve hregistered hcontinues).1⟩

end Generator

end ProtoClass
