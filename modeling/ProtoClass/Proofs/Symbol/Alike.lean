import ProtoClass.Proofs.Symbol.Operations

/-!
# Steps that run alike

Two generation steps run alike if they fail together and with one error, or succeed together and make things of which
a relation holds (`Gen.Alike`).  Their tables differ, but an invariant relates them throughout.  The names that the
second step gives out may only be settled in its last table, so the relation is claimed for runs that end there.
-/

namespace ProtoClass.Gen

open SymbolTable

variable {α β γ δ : Type} {inv : SymbolTable → SymbolTable → Prop} {last : SymbolTable}

/-- How two steps end that run alike from two given tables. -/
inductive Paired (inv : SymbolTable → SymbolTable → Prop) (last : SymbolTable) (rel : α → β → Prop) (step : Gen α)
    (step' : Gen β) (table table' : SymbolTable) : Prop
  | ok {a : α} {b : β} {later later' : SymbolTable} (hrun : step.run table = (.ok a, later))
      (hrun' : step'.run table' = (.ok b, later')) (hinv : inv later later') (hext : Extends table' later')
      (hrel : Extends later' last → rel a b)
  | fault {e : GenError} {later later' : SymbolTable} (hrun : step.run table = (.error e, later))
      (hrun' : step'.run table' = (.error e, later'))

/-- From tables that the invariant relates, two steps run alike. -/
def Alike (inv : SymbolTable → SymbolTable → Prop) (last : SymbolTable) (rel : α → β → Prop) (step : Gen α)
    (step' : Gen β) : Prop :=
  ∀ table table', inv table table' → Paired inv last rel step step' table table'

namespace Alike

variable {rel : α → β → Prop} {rel' : γ → δ → Prop} {step : Gen α} {step' : Gen β} {next : α → Gen γ}
  {next' : β → Gen δ}

theorem pure {a : α} {b : β} (h : rel a b) : Alike inv last rel (pure a) (pure b) :=
  fun table table' hinv => .ok (run_pure a table) (run_pure b table') hinv (Extends.refl table') fun _ => h

theorem throw (e : GenError) : Alike inv last rel (throw e : Gen α) (throw e : Gen β) :=
  fun table table' _ => .fault (run_throw e table) (run_throw e table')

/-- What the first parts make is only known to be related once the second parts have run. -/
theorem bind (h : Alike inv last rel step step')
    (h' : ∀ a b, Alike inv last (fun c d => rel a b → rel' c d) (next a) (next' b)) :
    Alike inv last rel' (step >>= next) (step' >>= next') := by
  intro table table' hinv
  rcases h table table' hinv with ⟨hrun, hrun', hinv, hext, hrel⟩ | ⟨hrun, hrun'⟩
  · rename_i a b later later'
    rcases h' a b later later' hinv with ⟨hnext, hnext', hinv', hext', hrel'⟩ | ⟨hnext, hnext'⟩
    · exact .ok ((run_bind_of_ok hrun).trans hnext) ((run_bind_of_ok hrun').trans hnext') hinv' (hext.trans hext')
        fun hlast => hrel' hlast (hrel (hext'.trans hlast))
    · exact .fault ((run_bind_of_ok hrun).trans hnext) ((run_bind_of_ok hrun').trans hnext')
  · exact .fault (run_bind_of_error hrun) (run_bind_of_error hrun')

/-- Both steps begin with the same value, if there is one. -/
theorem ofExcept_bind {ε : Type} {result : Except GenError ε} {next : ε → Gen γ} {next' : ε → Gen δ}
    (h : ∀ a, result = .ok a → Alike inv last rel' (next a) (next' a)) :
    Alike inv last rel' (ofExcept result >>= next) (ofExcept result >>= next') := by
  cases result with
  | ok a => exact h a rfl
  | error e => exact throw e

theorem returning {f : α → γ} {f' : β → δ} (h : Alike inv last rel step step')
    (hrel : ∀ a b, rel a b → rel' (f a) (f' b)) :
    Alike inv last rel' (step >>= fun a => Pure.pure (f a)) (step' >>= fun b => Pure.pure (f' b)) :=
  h.bind fun a b => Alike.pure (hrel a b)

/-- What is read off the tables is related if the invariant says so. -/
theorem get_returning {f : SymbolTable → γ} {f' : SymbolTable → δ}
    (h : ∀ table table', inv table table' → rel' (f table) (f' table')) :
    Alike inv last rel' (get >>= fun table => Pure.pure (f table)) (get >>= fun table => Pure.pure (f' table)) :=
  fun table table' hinv => .ok rfl rfl hinv (Extends.refl table') fun _ => h table table' hinv

theorem mapM {step : α → Gen γ} {step' : β → Gen δ} {as : List α} {bs : List β}
    (h : List.Forall₂ (fun a b => Alike inv last rel' (step a) (step' b)) as bs) :
    Alike inv last (List.Forall₂ rel') (as.mapM step) (bs.mapM step') := by
  induction h with
  | nil => exact Alike.pure List.Forall₂.nil
  | cons hfirst _ ih =>
    rw [List.mapM_cons, List.mapM_cons]
    exact hfirst.bind fun c d => ih.bind fun cs ds => Alike.pure fun hrest hcd => List.Forall₂.cons hcd hrest

theorem imp {rel' : α → β → Prop} (h : Alike inv last rel step step') (hrel : ∀ a b, rel a b → rel' a b) :
    Alike inv last rel' step step' := by
  intro table table' hinv
  rcases h table table' hinv with ⟨hrun, hrun', hinv, hext, hmade⟩ | ⟨hrun, hrun'⟩
  · exact .ok hrun hrun' hinv hext fun hlast => hrel _ _ (hmade hlast)
  · exact .fault hrun hrun'

/-- What the first step makes is described by what it makes on its own. -/
theorem and_makes {good : α → Prop} (h : Alike inv last rel step step') (hgood : Makes step good) :
    Alike inv last (fun a b => rel a b ∧ good a) step step' := by
  intro table table' hinv
  rcases h table table' hinv with ⟨hrun, hrun', hinv, hext, hrel⟩ | ⟨hrun, hrun'⟩
  · exact .ok hrun hrun' hinv hext fun hlast => ⟨hrel hlast, hgood _ _ _ hrun⟩
  · exact .fault hrun hrun'

/-- A third step that runs like the second one from a fixed table. -/
theorem also {inv' : SymbolTable → SymbolTable → Prop} {other : Gen γ} {rel' : γ → β → Prop} {start : SymbolTable}
    (h : Alike inv last rel step step') (hother : Alike inv' last rel' other step')
    (hinv : ∀ table table', inv table table' → inv' start table') :
    Alike inv last (fun a b => rel a b ∧ ∃ c, (other.run start).1 = .ok c ∧ rel' c b) step step' := by
  intro table table' htables
  rcases h table table' htables with ⟨hrun, hrun', hkept, hext, hrel⟩ | ⟨hrun, hrun'⟩
  · refine .ok hrun hrun' hkept hext fun hlast => ⟨hrel hlast, ?_⟩
    rcases hother start table' (hinv table table' htables) with ⟨hrun₃, hrun₃', _, _, hrel₃⟩ | ⟨_, hrun₃'⟩
    · obtain ⟨hb, rfl⟩ := Prod.mk.inj (hrun'.symm.trans hrun₃')
      cases hb
      exact ⟨_, congrArg Prod.fst hrun₃, hrel₃ hlast⟩
    · cases hrun'.symm.trans hrun₃'
  · exact .fault hrun hrun'

/-- Two steps that make the same thing do so whatever happens later. -/
theorem run_cases {step' : Gen α} {table table' : SymbolTable} (h : ∀ last, Alike inv last (· = ·) step step')
    (hinv : inv table table') :
    (∃ a later later', step.run table = (.ok a, later) ∧ step'.run table' = (.ok a, later') ∧ inv later later') ∨
      ∃ e later later', step.run table = (.error e, later) ∧ step'.run table' = (.error e, later') := by
  rcases h (step'.run table').2 table table' hinv with ⟨hrun, hrun', hkept, _, hsame⟩ | ⟨hrun, hrun'⟩
  · obtain rfl := hsame (hrun' ▸ Extends.refl _)
    exact Or.inl ⟨_, _, _, hrun, hrun', hkept⟩
  · exact Or.inr ⟨_, _, _, hrun, hrun'⟩

/-! ### Steps that only the second run takes -/

/-- A step that always succeeds and keeps the invariant with a table that stays as it is. -/
abbrev Silent (inv : SymbolTable → SymbolTable → Prop) (last : SymbolTable) (step : Gen β) : Prop :=
  Alike inv last (fun _ _ => True) (Pure.pure () : Gen Unit) step

theorem bind_right {rel : α → δ → Prop} {next' : β → Gen δ} (hsilent : Silent inv last step')
    (h : ∀ b, Alike inv last rel step (next' b)) : Alike inv last rel step (step' >>= next') := by
  have hboth : Alike inv last rel ((Pure.pure () : Gen Unit) >>= fun _ => step) (step' >>= next') :=
    hsilent.bind fun _ b => (h b).imp fun _ _ hrel _ => hrel
  rwa [pure_bind] at hboth

theorem get_silent : Silent inv last (get : Gen SymbolTable) :=
  fun table table' hinv => .ok (run_pure () table) (run_get table') hinv (Extends.refl table') fun _ => trivial

theorem mapM_silent {step' : γ → Gen β} {l : List γ} (h : ∀ c ∈ l, Silent inv last (step' c)) :
    Silent inv last (l.mapM step') := by
  induction l with
  | nil => exact Alike.pure trivial
  | cons c rest ih =>
    rw [List.mapM_cons]
    exact bind_right (h c List.mem_cons_self) fun _ =>
      bind_right (ih fun c' hc' => h c' (List.mem_cons_of_mem _ hc')) fun _ => Alike.pure trivial

end Alike

end ProtoClass.Gen
