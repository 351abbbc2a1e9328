import ScriptHost.Proofs.Clients.Commands

/-!
# Clients that take turns

Any number of clients share a world, each working on a context of its own.  A *schedule* says whose
turn it is and what that client wants done; `Client.turn` takes one turn.  Whatever the schedule, a
client gets the replies that it would get alone, and finds its variables as it would find them
alone, if no two clients ever use one store.

The induction is on the schedule, and compares it with the share of one client.  It carries two
invariants: each client's realm `Holds`, and the client that we look at finds itself in the run of
all in a state of affairs that `Mirrors` the one in its run alone.  At its own turn both runs take
the same step, by `Command.parallel_carryOut`; at another's turn only the former takes a step, and
that step spares its realm.
-/

set_option autoImplicit false

namespace ScriptHost

open ScriptHost.Action

/-- What comes of a list of actions, none of which can fail. -/
theorem Action.run_mapM_cons {σ α β : Type} (f : β → Action Empty σ α) (b : β) (rest : List β)
    (s : σ) :
    ((b :: rest).mapM f).run s =
      let done := (f b).run s
      let later := (rest.mapM f).run done.state
      ⟨.ok (done.answer :: later.answer), later.state, done.events ++ later.events⟩ := by
  rw [List.mapM_cons, run_bind, andThen_of_ok ((f b).run s).result_eq_answer, run_bind,
    andThen_of_ok (Outcome.result_eq_answer _)]
  simp only [run_pure, List.append_nil]

namespace Client

variable {ι : Type} [DecidableEq ι] {σ τ : ι → Type}

/-! ## Turns -/

/-- What is the `i`-th client's, of the things on a list. -/
def share {α : Type} (i : ι) (l : List (ι × α)) : List α :=
  l.filterMap fun p => if p.1 = i then some p.2 else none

@[simp] theorem share_cons_self {α : Type} (i : ι) (a : α) (l : List (ι × α)) :
    share i ((i, a) :: l) = a :: share i l :=
  List.filterMap_cons_some (if_pos rfl)

@[simp] theorem share_cons_of_ne {α : Type} {i j : ι} (h : j ≠ i) (a : α) (l : List (ι × α)) :
    share i ((j, a) :: l) = share i l :=
  List.filterMap_cons_none (if_neg h)

/-- The world, and the scopes that each client knows. -/
abbrev Views (ι : Type) : Type := World × (ι → List ScopeRef)

/-- What the `i`-th client has before it. -/
def Views.view (v : Views ι) (i : ι) : View := (v.1, v.2 i)

variable (contexts : (i : ι) → Context (σ i) (τ i))

/-- Carries out a command of one of the clients. -/
def turn (p : ι × Command) : Action Empty (Views ι) (ι × Reply) :=
  .zoom (Views.view · p.1) (fun done v => (done.1, replaceAt v.2 p.1 done.2)) do
    return (p.1, ← p.2.carryOut (contexts p.1))

/-- Whether a client uses a store at some time: at the start, or because it chooses it later. -/
def Uses (w : World) (schedule : List (ι × Command)) (i : ι) (g : StoreRef) : Prop :=
  w.linked (contexts i).link = some g ∨ .setGlobalStore (some g) ∈ share i schedule

variable {contexts} {v : Views ι} {i j : ι} {command : Command}

/-- A turn is a command on the view of the client whose turn it is. -/
theorem run_turn (i : ι) (command : Command) (v : Views ι) :
    (turn contexts (i, command)).run v =
      let done := (command.carryOut (contexts i)).run (v.view i)
      ⟨.ok (i, done.answer), (done.state.1, replaceAt v.2 i done.state.2), done.events⟩ := by
  simp only [turn, run_zoom, run_bind]
  rw [andThen_of_ok (Outcome.result_eq_answer _)]
  simp only [run_pure, List.append_nil]

theorem answer_turn (i : ι) (command : Command) (v : Views ι) :
    ((turn contexts (i, command)).run v).answer =
      (i, ((command.carryOut (contexts i)).run (v.view i)).answer) := by
  rw [run_turn]
  rfl

theorem view_turn_self (i : ι) (command : Command) (v : Views ι) :
    ((turn contexts (i, command)).run v).state.view i =
      ((command.carryOut (contexts i)).run (v.view i)).state := by
  rw [run_turn]
  simp only [Views.view, replaceAt_self]

theorem view_turn_of_ne (h : i ≠ j) :
    ((turn contexts (j, command)).run v).state.view i =
      (((turn contexts (j, command)).run v).state.1, v.2 i) := by
  rw [run_turn]
  simp only [Views.view, replaceAt_of_ne _ _ h]

/-! ## Clients with stores of their own -/

/-- The realms of the clients have nothing in common. -/
structure Apart (contexts : (i : ι) → Context (σ i) (τ i)) (stores : ι → StoreRef → Prop) : Prop
    where
  links : ∀ i j, (contexts i).link = (contexts j).link → i = j
  stores : ∀ i j g, stores i g → stores j g → i = j

variable {stores : ι → StoreRef → Prop} {v' : View}

/-- At its own turn, a client cannot tell the two runs apart. -/
theorem mirrors_turn_self (hcommand : ∀ g, command = .setGlobalStore (some g) → stores i g)
    (h : (Realm.of (contexts i) (stores i)).Mirrors (v.view i) v') :
    ((command.carryOut (contexts i)).run (v.view i)).answer =
        ((command.carryOut (contexts i)).run v').answer ∧
      (Realm.of (contexts i) (stores i)).Mirrors
        (((turn contexts (i, command)).run v).state.view i)
        ((command.carryOut (contexts i)).run v').state := by
  obtain ⟨hresult, -, hstate⟩ := command.parallel_carryOut hcommand _ _ h
  rw [Outcome.result_eq_answer, Outcome.result_eq_answer] at hresult
  rw [view_turn_self]
  exact ⟨Except.ok.inj hresult, hstate⟩

/-- Another's turn does not show. -/
theorem mirrors_turn_of_ne (apart : Apart contexts stores) (command : Command) (hij : i ≠ j)
    (holds : (Realm.of (contexts j) (stores j)).Holds (v.view j))
    (h : (Realm.of (contexts i) (stores i)).Mirrors (v.view i) v') :
    (Realm.of (contexts i) (stores i)).Mirrors
      (((turn contexts (j, command)).run v).state.view i) v' := by
  have hspares := command.spares_carryOut holds
  rw [view_turn_of_ne hij, run_turn]
  exact h.of_spares hspares rfl holds (fun heq => hij (apart.links i j heq))
    fun g hi hj => hij (apart.stores i j g hi hj)

/-- After a turn each client's realm is still its own. -/
theorem holds_turn (apart : Apart contexts stores)
    (holds : ∀ i, (Realm.of (contexts i) (stores i)).Holds (v.view i))
    (hcommand : ∀ g, command = .setGlobalStore (some g) → stores j g) (i : ι) :
    (Realm.of (contexts i) (stores i)).Holds (((turn contexts (j, command)).run v).state.view i) := by
  by_cases hij : i = j
  · subst hij
    exact (mirrors_turn_self hcommand (holds i).mirrors).2.holds
  · exact (mirrors_turn_of_ne apart command hij (holds j) (holds i).mirrors).holds

/-- **A client gets from a run of all what it gets alone.** -/
theorem mirrors_schedule (apart : Apart contexts stores) (i : ι) (schedule : List (ι × Command))
    (hschedule : ∀ j g, .setGlobalStore (some g) ∈ share j schedule → stores j g)
    (holds : ∀ i, (Realm.of (contexts i) (stores i)).Holds (v.view i))
    (h : (Realm.of (contexts i) (stores i)).Mirrors (v.view i) v') :
    let all := (schedule.mapM (turn contexts)).run v
    let alone := ((share i schedule).mapM (Command.carryOut (contexts i))).run v'
    share i all.answer = alone.answer ∧
      (Realm.of (contexts i) (stores i)).Mirrors (all.state.view i) alone.state := by
  induction schedule generalizing v v' with
  | nil => exact ⟨rfl, h⟩
  | cons p rest ih =>
    obtain ⟨j, command⟩ := p
    have hcommand : ∀ g, command = .setGlobalStore (some g) → stores j g := by
      rintro g rfl
      exact hschedule j g (by rw [share_cons_self]; exact List.mem_cons_self)
    have hrest : ∀ k g, .setGlobalStore (some g) ∈ share k rest → stores k g := by
      intro k g hg
      refine hschedule k g ?_
      by_cases hjk : j = k
      · rw [hjk, share_cons_self]
        exact List.mem_cons_of_mem _ hg
      · rwa [share_cons_of_ne hjk]
    have holds' := holds_turn apart holds hcommand
    intro all alone
    have hstate : all.state = ((rest.mapM (turn contexts)).run
        ((turn contexts (j, command)).run v).state).state := by
      simp only [all, run_mapM_cons]
    have hanswer : all.answer = (j, ((command.carryOut (contexts j)).run (v.view j)).answer) ::
        ((rest.mapM (turn contexts)).run ((turn contexts (j, command)).run v).state).answer := by
      simp only [all, run_mapM_cons, ← answer_turn]
      rfl
    rw [hanswer, hstate]
    -- at its own turn the client's run alone takes the same step, at another's turn it stands still
    by_cases hij : i = j
    · subst hij
      obtain ⟨hreply, hmirrors⟩ := mirrors_turn_self hcommand h
      obtain ⟨hreplies, hmirrors'⟩ := ih hrest holds' hmirrors
      simp only [alone, share_cons_self, run_mapM_cons, hreply, hreplies]
      exact ⟨rfl, hmirrors'⟩
    · have hmirrors := mirrors_turn_of_ne apart command hij (holds j) h
      simp only [alone, share_cons_of_ne (Ne.symm hij)]
      exact ih hrest holds' hmirrors

/-! ## Isolation -/

theorem Realm.Mirrors.scopes {r : Realm} {v v' : View} (h : r.Mirrors v v') :
    v.2.map v.1.scope = v'.2.map v'.1.scope := by
  obtain ⟨known, hv, hv', hm⟩ := h
  rw [hv, hv', List.map_map, List.map_map]
  exact List.map_congr_left fun p hp => congrArg Cell.content (hm.cells p hp)

/-- **Isolation.**  An operation through one scope leaves the locals and the revision of every other
scope as they are, and another scope shows something else for a name only if the name is no local
there and the operation has changed it in the store of that scope.

Clients with different contexts and with stores of their own do not notice each other: in every
schedule each client gets the replies that it would get alone, and in the end its scopes, its link
and its stores are as they would be. -/
theorem noninterference :
    (∀ (b : Bindings) (op : Bindings.Operation) (w : World) (t : ScopeRef), t ≠ b.scope →
      let w' := ((b.operate op).run w).state
      (w'.scope t).locals = (w.scope t).locals ∧ (w'.scope t).revision = (w.scope t).revision ∧
        ∀ name, w'.shownValue t name ≠ w.shownValue t name →
          w.isLocal t name = false ∧ ∃ g, w.storeOf t = some g ∧ w'.storeOf t = some g ∧
            (w'.entries g).find? name ≠ (w.entries g).find? name) ∧
    ∀ {ι : Type} [DecidableEq ι] {σ τ : ι → Type} (contexts : (i : ι) → Context (σ i) (τ i))
      (w : World) (scopes : ι → List ScopeRef) (schedule : List (ι × Command)),
      (∀ i j, (contexts i).link = (contexts j).link → i = j) →
      (∀ i j g, Uses contexts w schedule i g → Uses contexts w schedule j g → i = j) →
      (∀ i, ∀ s ∈ scopes i, (w.scope s).link = (contexts i).link ∧ s.index < w.scopeCount) →
      let all := (schedule.mapM (turn contexts)).run (w, scopes)
      ∀ i,
        let alone := ((share i schedule).mapM (Command.carryOut (contexts i))).run (w, scopes i)
        share i all.answer = alone.answer ∧
          (all.state.2 i).map all.state.1.scope = alone.state.2.map alone.state.1.scope ∧
          all.state.1.linked (contexts i).link = alone.state.1.linked (contexts i).link ∧
          ∀ g, Uses contexts w schedule i g → all.state.1.entries g = alone.state.1.entries g := by
  refine ⟨fun b op w t ht => ?_, ?_⟩
  · have hthrough := b.through_operate op w
    have hscope := congrArg Cell.content (hthrough.scopes t ht)
    exact ⟨congrArg Scope.locals hscope, congrArg Scope.revision hscope,
      fun name hne => hthrough.shownValue_ne ht hne⟩
  · intro ι _ σ τ contexts w scopes schedule hlinks hstores hscopes all i alone
    have apart : Apart contexts (Uses contexts w schedule) := ⟨hlinks, hstores⟩
    have holds : ∀ i, (Realm.of (contexts i) (Uses contexts w schedule i)).Holds (w, scopes i) :=
      fun i => ⟨fun s hs => (hscopes i s hs).1, fun s hs => (hscopes i s hs).2, fun _ hg => .inl hg⟩
    obtain ⟨hanswer, hmirrors⟩ := mirrors_schedule (v := (w, scopes)) apart i schedule
      (fun _ _ hg => .inr hg) holds (holds i).mirrors
    refine ⟨hanswer, hmirrors.scopes, ?_⟩
    obtain ⟨known, -, -, hm⟩ := hmirrors
    exact ⟨congrArg Cell.content hm.link, fun g hg => congrArg Cell.content (hm.stores g hg)⟩

/-- Two clients, each with a scope and a store: one exchanges its store between a write and a read
of the other, which finds its own value back. -/
theorem noninterference_two_clients :
    let contexts : Bool → Context String String := fun i =>
      { settings := {}, link := ⟨i.toNat⟩, scope := ⟨i.toNat⟩
        stdout := .new "" .utf8, stderr := .new "" .utf8 }
    let w : World := { World.empty with
      scopes := fun s => { content := ⟨"", .empty, ⟨s.index⟩, 0⟩ }
      scopeCount := 2
      links := fun l => { content := some ⟨l.index⟩ } }
    let value : Value := ⟨⟨0⟩, .bool true⟩
    let schedule : List (Bool × Command) :=
      [(false, .operate 0 (.define "x" value)), (true, .setGlobalStore (some ⟨3⟩)),
        (false, .operate 0 (.request (.get (.name "x"))))]
    let all := (schedule.mapM (turn contexts)).run (w, fun i => [⟨i.toNat⟩])
    share false all.answer =
        [.operated (.define "x" value) (.ok none),
          .operated (.request (.get (.name "x"))) (.ok (some value))] ∧
      all.state.1.linked ⟨0⟩ = some ⟨0⟩ := by
  intro contexts w value schedule all
  have huses : ∀ i g, Uses contexts w schedule i g → g.index % 2 = i.toNat := by
    rintro i g (hg | hg)
    · cases Option.some.inj hg
      cases i <;> rfl
    · cases i with
      | false => simp [schedule, share] at hg
      | true =>
        simp only [schedule, share, List.filterMap_cons, List.filterMap_nil] at hg
        cases hg with
        | tail _ h => cases h
        | head => rfl
  have hlink : ∀ i j : Bool, i.toNat = j.toNat → i = j := by decide
  obtain ⟨hanswers, -, hlinked, -⟩ := noninterference.2 contexts w (fun i => [⟨i.toNat⟩])
    schedule (fun i j h => hlink i j (congrArg LinkRef.index h))
    (fun i j g hi hj => hlink i j ((huses i g hi).symm.trans (huses j g hj)))
    (fun i s hs => by rw [List.mem_singleton.1 hs]; exact ⟨rfl, by cases i <;> decide⟩) false
  exact ⟨hanswers.trans rfl, hlinked.trans rfl⟩

end Client

end ScriptHost
