import Locator.Client

/-!
# The client adapter forwards faithfully

Whether a caller talks to a remote repository or to the proxy that the client adapter makes for it,
the remote repository sees the same calls and gives the same answers.

* `Repository.recording`: a repository that keeps a record of the calls on it;
* `Repository.answer_recording`, `RemoteRepository.exists_run_answer_forwarded`: what the record and
  the proxy add to one call;
* `RemoteRepository.exists_run_answers`: a sequence of calls, with and without the proxy;
* `ClientAdapter.proxy_is_indistinguishable`: which handles are wrapped, how the others are refused,
  and what the proxy of a wrapped one does.
-/

namespace Locator

variable {σ ε ε' ρ α β : Type}

/-! ## Recorded calls -/

/-- The same work over a state with a record, in which the call is written first. -/
def Act.recorded (call : Call) (a : Act σ ε α) : Act (σ × List Call) ε α := do
  Act.modify fun s => (s.1, s.2 ++ [call])
  a.within .first

/-- A repository that writes down each call on it, and otherwise does what it did before. The record
is out of its own reach. -/
def Repository.recording (r : Repository σ ε) : Repository (σ × List Call) ε where
  descriptorKeys := r.descriptorKeys.recorded .keys
  descriptor key := (r.descriptor key).recorded (.descriptor key)
  login credentials? workspace? :=
    (r.login credentials? workspace?).recorded (.login credentials? workspace?)

namespace Act

/-- A recorded call does what the call does and leaves its entry behind the record. -/
theorem run_recorded (call : Call) (a : Act σ ε α) (s : σ) (record : List Call) :
    (a.recorded call).run (s, record) =
      ⟨(a.run s).value, ((a.run s).state, record ++ [call]), (a.run s).events⟩ :=
  run_bind_of_silent (run_modify _ (s, record))

theorem map_recorded (f : α → β) (call : Call) (a : Act σ ε α) :
    f <$> a.recorded call = (f <$> a).recorded call := by
  funext ⟨s, record⟩
  show (f <$> a.recorded call).run (s, record) = ((f <$> a).recorded call).run (s, record)
  rw [run_map, run_recorded, run_recorded, run_map]

end Act

/-- A call on a repository that keeps a record is the same call, written down. -/
theorem Repository.answer_recording (r : Repository σ ε) (call : Call) :
    r.recording.answer call = (r.answer call).recorded call := by
  cases call with
  | keys => exact Act.map_recorded Answer.keys .keys r.descriptorKeys
  | descriptor key => exact Act.map_recorded Answer.descriptor (.descriptor key) (r.descriptor key)
  | login credentials? workspace? =>
    exact Act.map_recorded Answer.login (.login credentials? workspace?)
      (r.login credentials? workspace?)

/-! ## Forwarded calls -/

theorem Act.run_after_emit (e : Event) (a : Act σ ε α) (s : σ) :
    (do Act.emit e; a : Act σ ε α).run s =
      ⟨(a.run s).value, (a.run s).state, e :: (a.run s).events⟩ :=
  Act.run_bind_of_ok (Act.run_emit e s) rfl

/-- A failure is put in other terms, whatever becomes of a value. -/
theorem map_mapError (f : α → β) (g : ε → ε') (v : Except ε α) :
    (v.mapError g).map f = (v.map f).mapError g := by
  cases v with
  | error e => rfl
  | ok x => rfl

/-- A forwarded call ends as the call on the remote repository does, its failure put in other
terms. -/
theorem RemoteRepository.exists_run_answer_forwarded (r : RemoteRepository σ) (call : Call) (s : σ) :
    ∃ events, ((forwarded r).answer call).run s =
      ⟨((r.answer call).run s).value.mapError .remote, ((r.answer call).run s).state, events⟩ := by
  cases call with
  | keys =>
    refine ⟨forwardingEvent "Forwarding descriptor_keys" [] :: (r.descriptorKeys.run s).events, ?_⟩
    unfold Repository.answer forwarded
    rw [Act.run_map, Act.run_after_emit, Act.run_mapError, Act.run_map, map_mapError]
  | descriptor key =>
    refine ⟨forwardingEvent "Forwarding descriptor" [("key", key)] ::
      ((r.descriptor key).run s).events, ?_⟩
    unfold Repository.answer forwarded
    rw [Act.run_map, Act.run_after_emit, Act.run_mapError, Act.run_map, map_mapError]
  | login credentials? workspace? =>
    refine ⟨((r.login credentials? workspace?).run s).events.map (·.inside (loginSpan workspace?)),
      ?_⟩
    unfold Repository.answer forwarded
    rw [Act.run_map, Act.run_inSpan, Act.run_mapError, Act.run_map, map_mapError]

/-! ## Sequences of calls -/

/-- Answers to a series of calls are put together from the first answer and the others. -/
theorem Repository.run_answers_cons {r : Repository σ ε} {call : Call} {rest : List Call}
    {s t u : σ} {first : Except ε Answer} {others : List (Except ε Answer)}
    {before after : List Event} (hfirst : (r.answer call).run s = ⟨first, t, before⟩)
    (hrest : (r.answers rest : Act σ ε' _).run t = ⟨.ok others, u, after⟩) :
    ∃ events, (r.answers (call :: rest) : Act σ ε' _).run s =
      ⟨.ok (first :: others), u, events⟩ := by
  have hothers : (do
      let others ← r.answers rest
      pure (first :: others) : Act σ ε' (List (Except ε Answer))).run t =
        ⟨.ok (first :: others), u, after ++ []⟩ :=
    Act.run_bind_of_ok hrest (Act.run_pure _ _)
  exact ⟨before ++ (after ++ []), Act.run_bind_of_ok (Act.run_attempt_of hfirst) hothers⟩

/-- Calls through a proxy are made on the remote repository one by one as they are given. They get
the answers that the remote repository gives without a proxy, and leave it in the same state. -/
theorem RemoteRepository.exists_run_answers (r : RemoteRepository σ) (calls : List Call) (s : σ)
    (record : List Call) :
    ∃ answers t events forwardedEvents,
      (r.answers calls : Act σ ε _).run s = ⟨.ok answers, t, events⟩ ∧
      ((forwarded (Repository.recording r)).answers calls : Act _ ε' _).run (s, record) =
        ⟨.ok (answers.map (·.mapError .remote)), (t, record ++ calls), forwardedEvents⟩ := by
  induction calls generalizing s record with
  | nil =>
    rw [List.append_nil]
    exact ⟨[], s, [], [], rfl, rfl⟩
  | cons call rest ih =>
    let o := (r.answer call).run s
    obtain ⟨events, hforwarded⟩ :=
      exists_run_answer_forwarded (Repository.recording r) call (s, record)
    rw [Repository.answer_recording, Act.run_recorded] at hforwarded
    obtain ⟨answers, t, after, forwardedAfter, hrest, hforwardedRest⟩ :=
      ih o.state (record ++ [call])
    obtain ⟨all, hrun⟩ := Repository.run_answers_cons (r := r) (s := s) rfl hrest
    obtain ⟨forwardedAll, hforwardedRun⟩ :=
      Repository.run_answers_cons hforwarded hforwardedRest
    rw [List.append_assoc] at hforwardedRun
    exact ⟨o.value :: answers, t, all, forwardedAll, hrun, hforwardedRun⟩

namespace ClientAdapter

/-! ## Wrapping -/

/-- A remote repository is wrapped into a proxy for it. -/
theorem run_wrap_repository (remote : ρ) (s : σ) :
    (wrap (.repository remote)).run s =
      ⟨.ok ⟨remote⟩, s, [wrappingEvent Handle.repositoryTypeName]⟩ :=
  Act.run_after_emit _ _ s

/-- What is not a repository is refused with both type names, and nothing is written. -/
theorem run_wrap_foreign (object : ForeignObject) (s : σ) :
    (wrap (.foreign object : Handle ρ)).run s =
      ⟨.error ⟨Handle.repositoryTypeName, object.typeName⟩, s, []⟩ :=
  Act.run_fail _ s

/-- A handle is wrapped exactly if it holds a reference to a repository; it is refused with the names
of the type that is asked for and of its own type otherwise. A proxy stands for the repository that
the handle refers to: whatever that repository does, any calls on the proxy are made on it as they
are given, each once and in order, and get the same answers, with failures as failures of the remote
call. -/
theorem proxy_is_indistinguishable {τ : Type} (h : Handle ρ) (w : τ) :
    ((∃ p, ((wrap h).run w).value = .ok p) ↔ ∃ remote, h = .repository remote) ∧
    ((¬ ∃ remote, h = .repository remote) →
      ((wrap h).run w).value = .error ⟨Handle.repositoryTypeName, h.typeName⟩) ∧
    ((wrap h).run w).state = w ∧
    ∀ p, ((wrap h).run w).value = .ok p → h = .repository p.remote ∧
      ∀ {σ : Type} (reach : ρ → RemoteRepository σ) (calls record : List Call) (s : σ),
        ∃ answers t events proxyEvents,
          ((reach p.remote).answers calls : Act σ Empty _).run s = ⟨.ok answers, t, events⟩ ∧
          ((p.repository fun remote => (reach remote).recording).answers calls :
            Act _ Empty _).run (s, record) =
              ⟨.ok (answers.map (·.mapError .remote)), (t, record ++ calls), proxyEvents⟩ := by
  cases h with
  | repository remote =>
    rw [run_wrap_repository]
    refine ⟨⟨fun _ => ⟨remote, rfl⟩, fun _ => ⟨⟨remote⟩, rfl⟩⟩, ?_, rfl, ?_⟩
    · intro hno
      exact absurd ⟨remote, rfl⟩ hno
    · intro p hp
      cases hp
      refine ⟨rfl, ?_⟩
      intro σ reach calls record s
      exact RemoteRepository.exists_run_answers (reach remote) calls s record
  | foreign object =>
    rw [run_wrap_foreign]
    refine ⟨⟨?_, ?_⟩, fun _ => rfl, rfl, ?_⟩
    · rintro ⟨p, hp⟩
      cases hp
    · rintro ⟨remote, hremote⟩
      cases hremote
    · intro p hp
      cases hp

end ClientAdapter

end Locator
