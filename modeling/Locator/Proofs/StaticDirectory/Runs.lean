import Locator.StaticConnector

/-!
# How a static directory runs

One rule for each operation of a static directory and for connecting to it: what it gives, what it
leaves and what it reports. Every operation checks the name first; a refused name is all that is
reported then, and nothing changes.

* `StaticDirectory.run_bind_of_*`, `StaticDirectory.run_rebind_of_*`,
  `StaticDirectory.run_unbind_of_*`, `StaticDirectory.run_lookup_of_*`: the four operations;
* `StaticConnector.run_connect_of_ok`, `StaticConnector.run_connect_of_error`: connecting, which
  puts the environment on record either way; `StaticConnector.run_connect_value`: what it gives.
-/

namespace Locator

variable {ρ : Type}

namespace StaticDirectory

variable {name : String}

/-- A name that is not well-formed cannot be bound. -/
theorem run_bind_of_refused {e : NamingError} (h : checkName name = .error e) (handle : Handle ρ)
    (d : StaticDirectory ρ) : (bind name handle).run d = ⟨.error (.naming e), d, []⟩ := by
  have hcheck : (Act.ofExcept (checkName name)).run d = ⟨.error e, d, []⟩ := by
    rw [Act.run_ofExcept, h]
  exact Act.run_bind_of_error (Act.run_mapError_of_error _ hcheck)

theorem run_checkName_of_accepted (h : checkName name = .ok ()) (d : StaticDirectory ρ) :
    ((Act.ofExcept (checkName name)).mapError BindError.naming).run d = ⟨.ok (), d, []⟩ := by
  have hcheck : (Act.ofExcept (checkName name)).run d = ⟨.ok (), d, []⟩ := by
    rw [Act.run_ofExcept, h]
  exact Act.run_mapError_of_ok _ hcheck

/-- A name that is taken cannot be bound. -/
theorem run_bind_of_taken {d : StaticDirectory ρ} (h : checkName name = .ok ())
    (ht : d.table.contains name = true) (handle : Handle ρ) :
    (bind name handle).run d = ⟨.error (.alreadyBound name), d, []⟩ := by
  refine Act.run_bind_of_ok (run_checkName_of_accepted h d) (Act.run_bind_of_ok (Act.run_get d) ?_)
  rw [if_pos ht]
  exact Act.run_fail _ d

/-- A free name is bound, with an event. -/
theorem run_bind_of_free {d : StaticDirectory ρ} (h : checkName name = .ok ())
    (hf : d.table.contains name = false) (handle : Handle ρ) :
    (bind name handle).run d =
      ⟨.ok (), d.put name handle, [bindingEvent "Bound remote handle" name handle]⟩ := by
  refine Act.run_bind_of_ok (run_checkName_of_accepted h d) (Act.run_bind_of_ok (Act.run_get d) ?_)
  rw [if_neg (by simp [hf])]
  exact Act.run_bind_of_ok (Act.run_emit _ d) (Act.run_modify _ d)

theorem run_rebind_of_refused {e : NamingError} (h : checkName name = .error e) (handle : Handle ρ)
    (d : StaticDirectory ρ) : (rebind name handle).run d = ⟨.error e, d, []⟩ :=
  Act.run_ofExcept_bind_of_error h _ d

/-- A well-formed name is rebound, taken or not, and what it was bound to is handed back. -/
theorem run_rebind_of_accepted (h : checkName name = .ok ()) (handle : Handle ρ)
    (d : StaticDirectory ρ) :
    (rebind name handle).run d = ⟨.ok (d.table.get? name), d.put name handle,
      [bindingEvent "Rebound remote handle" name handle]⟩ := by
  refine Eq.trans (Act.run_ofExcept_bind_of_ok h _ d) ?_
  refine Act.run_bind_of_ok (Act.run_emit _ d) (Act.run_bind_of_ok (Act.run_get d) ?_)
  exact Act.run_bind_of_ok (Act.run_modify _ d) (Act.run_pure _ _)

theorem run_unbind_of_refused {e : NamingError} (h : checkName name = .error e)
    (d : StaticDirectory ρ) : (unbind name).run d = ⟨.error e, d, []⟩ :=
  Act.run_ofExcept_bind_of_error h _ d

/-- Unbinding a well-formed name hands back what it was bound to. -/
theorem run_unbind_of_accepted (h : checkName name = .ok ()) (d : StaticDirectory ρ) :
    (unbind name).run d = ⟨.ok (d.table.get? name), ⟨d.table.erase name⟩, []⟩ := by
  refine Eq.trans (Act.run_ofExcept_bind_of_ok h _ d) ?_
  refine Act.run_bind_of_ok (Act.run_get d) ?_
  exact Act.run_bind_of_ok (Act.run_modify _ d) (Act.run_pure _ _)

theorem run_lookup_of_refused {e : NamingError} (h : checkName name = .error e)
    (d : StaticDirectory ρ) : (lookup name).run d = ⟨.error e, d, []⟩ :=
  Act.run_ofExcept_bind_of_error h _ d

theorem run_lookup_of_bound {d : StaticDirectory ρ} {handle : Handle ρ}
    (h : checkName name = .ok ()) (hb : d.table.get? name = some handle) :
    (lookup name).run d = ⟨.ok handle, d, []⟩ := by
  refine Eq.trans (Act.run_ofExcept_bind_of_ok h _ d) ?_
  refine Eq.trans (Act.run_bind_of_silent (Act.run_get d)) ?_
  rw [hb]
  exact Act.run_pure handle d

/-- What is not bound is not found. -/
theorem run_lookup_of_missing {d : StaticDirectory ρ} (h : checkName name = .ok ())
    (hb : d.table.get? name = none) :
    (lookup name).run d = ⟨.error (.nameNotBound name), d, []⟩ := by
  refine Eq.trans (Act.run_ofExcept_bind_of_ok h _ d) ?_
  refine Eq.trans (Act.run_bind_of_silent (Act.run_get d)) ?_
  rw [hb]
  exact Act.run_fail _ d

end StaticDirectory

namespace StaticConnector

variable {c : StaticConnector} {env : Environment}

/-- A client that passes the check gets the context, and its environment is recorded. -/
theorem run_connect_of_ok (h : c.checkAccess env = .ok ()) (w : StaticService ρ) :
    (c.connect env).run w = ⟨.ok context, w.record env, [acceptanceEvent env]⟩ := by
  have hcheck : ((Act.ofExcept (c.checkAccess env)).onError fun e => do
      Act.emit (refusalEvent e); Act.fail e : Act (StaticService ρ) NamingError Unit).run
        (w.record env) = ⟨.ok (), w.record env, []⟩ := by
    refine Act.run_onError_of_ok ?_
    rw [Act.run_ofExcept, h]
  have hend : (do Act.emit (acceptanceEvent env); pure context :
      Act (StaticService ρ) NamingError (DirectoryContext (StaticService ρ) ρ)).run
        (w.record env) = ⟨.ok context, w.record env, [acceptanceEvent env]⟩ :=
    Act.run_bind_of_ok (Act.run_emit _ _) (Act.run_pure _ _)
  exact Act.run_bind_of_ok (Act.run_modify _ w) (Act.run_bind_of_ok hcheck hend)

/-- A client that does not pass is refused, and its environment is recorded all the same. -/
theorem run_connect_of_error {e : NamingError} (h : c.checkAccess env = .error e)
    (w : StaticService ρ) :
    (c.connect env).run w = ⟨.error e, w.record env, [refusalEvent e]⟩ := by
  have hdecided : (Act.ofExcept (c.checkAccess env)).run (w.record env) =
      ⟨.error e, w.record env, []⟩ := by
    rw [Act.run_ofExcept, h]
  have hreport : (do Act.emit (refusalEvent e); Act.fail e :
      Act (StaticService ρ) NamingError Unit).run (w.record env) =
        ⟨.error e, w.record env, [refusalEvent e]⟩ :=
    Act.run_bind_of_ok (Act.run_emit _ _) (Act.run_fail _ _)
  have hcheck : ((Act.ofExcept (c.checkAccess env)).onError fun e => do
      Act.emit (refusalEvent e); Act.fail e : Act (StaticService ρ) NamingError Unit).run
        (w.record env) = ⟨.error e, w.record env, [refusalEvent e]⟩ :=
    Act.run_onError_of_error hdecided hreport
  exact Act.run_bind_of_ok (Act.run_modify _ w) (Act.run_bind_of_error hcheck)

/-- Connecting gives what the two checks decide. -/
theorem run_connect_value (c : StaticConnector) (env : Environment) (w : StaticService ρ) :
    ((c.connect env).run w).value = (c.checkAccess env).map fun _ => context := by
  cases h : c.checkAccess env with
  | ok _ =>
    rw [run_connect_of_ok h]
    rfl
  | error e =>
    rw [run_connect_of_error h]
    rfl

end StaticConnector

end Locator
