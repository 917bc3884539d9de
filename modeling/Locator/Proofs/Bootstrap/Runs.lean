import Locator.Bootstrap

/-!
# How a bootstrap runs

One rule for each way in which a bootstrap can go: what it gives, the state it leaves and the events
it reports, from the runs of the collaborators that it asks.

* `DirectoryConnector.run_resolve_of_*`: connecting and looking up;
* `Bootstrapper.run_bootstrapWith_of_*`: the four steps;
* `Bootstrapper.run_bootstrap`: a bootstrap reads its plan first and is the bootstrap of that plan.

A collaborator may answer anything, so each rule takes the outcome of its run as a hypothesis. The
state that one collaborator leaves is the state that the next one finds.
-/

namespace Locator

variable {σ ρ π : Type}

/-! ## Connecting and looking up -/

namespace DirectoryConnector

variable {connector : DirectoryConnector σ ρ} {env : Environment} {location : String} {s t u : σ}
  {context : DirectoryContext σ ρ} {connecting looking : List Event}

/-- A failure of the naming service is reported, and is the failure of the bootstrap. -/
theorem run_directoryFailed (report location : String) (e : NamingError) (s : σ) :
    (directoryFailed report location e : Act σ BootstrapError π).run s =
      ⟨.error (.directoryUnavailable location e), s,
        [resolverEvent .warn report [("error", e.message)]]⟩ :=
  Act.run_bind_of_ok (Act.run_emit _ s) (Act.run_fail _ s)

/-- Where the connection is refused, the refusal is reported and nothing is looked up. -/
theorem run_resolve_of_connect_error {e : NamingError}
    (h : (connector.connect env).run s = ⟨.error e, t, connecting⟩) :
    (connector.resolve env location).run s =
      ⟨.error (.directoryUnavailable location e), t,
        (connecting ++ [resolverEvent .warn "Failed to build directory context"
          [("error", e.message)]]).map (·.inside (resolveSpan env location))⟩ := by
  unfold resolve
  rw [Act.run_inSpan, Act.run_bind_of_error
    (Act.run_onError_of_error h (run_directoryFailed _ location e t))]

/-- Where the look-up fails, the failure is reported after all that came before. -/
theorem run_resolve_of_lookup_error {e : NamingError}
    (h : (connector.connect env).run s = ⟨.ok context, t, connecting⟩)
    (hl : (context.lookup location).run t = ⟨.error e, u, looking⟩) :
    (connector.resolve env location).run s =
      ⟨.error (.directoryUnavailable location e), u,
        (connecting ++ (looking ++ [resolverEvent .warn "Directory lookup failed"
          [("error", e.message)]])).map (·.inside (resolveSpan env location))⟩ := by
  unfold resolve
  rw [Act.run_inSpan, Act.run_bind_of_ok (Act.run_onError_of_ok h)
    (Act.run_bind_of_error (Act.run_onError_of_error hl (run_directoryFailed _ location e u)))]

/-- Where a handle is found, its type is reported. -/
theorem run_resolve_of_found {found : Handle ρ}
    (h : (connector.connect env).run s = ⟨.ok context, t, connecting⟩)
    (hl : (context.lookup location).run t = ⟨.ok found, u, looking⟩) :
    (connector.resolve env location).run s =
      ⟨.ok found, u,
        (connecting ++ (looking ++ [resolverEvent .debug "Remote handle located"
          [("handle", found.typeName)]])).map (·.inside (resolveSpan env location))⟩ := by
  have hend : (do Act.emit (resolverEvent .debug "Remote handle located"
        [("handle", found.typeName)]); pure found : Act σ BootstrapError (Handle ρ)).run u =
      ⟨.ok found, u, [resolverEvent .debug "Remote handle located"
        [("handle", found.typeName)]]⟩ :=
    Act.run_bind_of_ok (Act.run_emit _ u) (Act.run_pure found u)
  unfold resolve
  rw [Act.run_inSpan, Act.run_bind_of_ok (Act.run_onError_of_ok h)
    (Act.run_bind_of_ok (Act.run_onError_of_ok hl) hend)]

end DirectoryConnector

/-! ## The four steps -/

namespace Bootstrapper

variable {b : Bootstrapper σ ρ π} {plan : Plan} {s t u w : σ}
  {factory : AdapterFactory σ ρ π} {found : Handle ρ} {making resolving wrapping : List Event}

/-- An adapter factory that is not to be had is reported with its kind, and is the failure of the
bootstrap. -/
theorem run_factoryFailed (name : String) (e : ComponentError) (s : σ) :
    (factoryFailed name e : Act σ BootstrapError π).run s =
      ⟨.error (.configuration name e), s,
        [bootstrapEvent .warn "Adapter factory could not be prepared"
          [("kind", (BootstrapError.configuration name e).label),
            ("error", (BootstrapError.configuration name e).message)]]⟩ :=
  Act.run_bind_of_ok (Act.run_emit _ s) (Act.run_fail _ s)

/-- A handle that is refused is reported, and is the failure of the bootstrap. -/
theorem run_wrapFailed (location : String) (e : AdapterError) (s : σ) :
    (wrapFailed location e : Act σ BootstrapError π).run s =
      ⟨.error (.incompatibleHandle location e), s,
        [bootstrapEvent .warn "Adapter factory rejected the remote handle"
          [("error", e.message)]]⟩ :=
  Act.run_bind_of_ok (Act.run_emit _ s) (Act.run_fail _ s)

/-- Where the registry gives no adapter factory, that is reported. -/
theorem run_adapterFactory_of_error {e : ComponentError} {name : String}
    (h : (b.registry.adapterFactory name).run s = ⟨.error e, t, making⟩) :
    (b.adapterFactory name).run s =
      ⟨.error (.configuration name e), t,
        making ++ [bootstrapEvent .warn "Adapter factory could not be prepared"
          [("kind", (BootstrapError.configuration name e).label),
            ("error", (BootstrapError.configuration name e).message)]]⟩ :=
  Act.run_bind_of_error (Act.run_onError_of_error h (run_factoryFailed name e t))

/-- Where the registry gives an adapter factory, its name is reported. -/
theorem run_adapterFactory_of_ok {name : String}
    (h : (b.registry.adapterFactory name).run s = ⟨.ok factory, t, making⟩) :
    (b.adapterFactory name).run s =
      ⟨.ok factory, t,
        making ++ [bootstrapEvent .debug "Adapter factory instantiated" [("factory", name)]]⟩ :=
  Act.run_bind_of_ok (Act.run_onError_of_ok h)
    (Act.run_bind_of_ok (Act.run_emit _ t) (Act.run_pure factory t))

/-- Without an adapter factory nothing is looked for. -/
theorem run_bootstrapWith_of_factory_error {e : BootstrapError}
    (h : (b.adapterFactory plan.factory).run s = ⟨.error e, t, making⟩) :
    (b.bootstrapWith plan).run s =
      ⟨.error e, t, making.map (·.inside (bootstrapSpan plan))⟩ := by
  unfold bootstrapWith
  rw [Act.run_inSpan, Act.run_bind_of_error h]

/-- Where no handle is found, nothing is wrapped. -/
theorem run_bootstrapWith_of_resolve_error {e : BootstrapError}
    (h : (b.adapterFactory plan.factory).run s = ⟨.ok factory, t, making⟩)
    (hr : (b.connector.resolve plan.environment plan.location).run t =
      ⟨.error e, u, resolving⟩) :
    (b.bootstrapWith plan).run s =
      ⟨.error e, u, (making ++ resolving).map (·.inside (bootstrapSpan plan))⟩ := by
  unfold bootstrapWith
  rw [Act.run_inSpan, Act.run_bind_of_ok h (Act.run_bind_of_error hr)]

/-- Where the handle is refused, there is no proxy. -/
theorem run_bootstrapWith_of_wrap_error {e : AdapterError}
    (h : (b.adapterFactory plan.factory).run s = ⟨.ok factory, t, making⟩)
    (hr : (b.connector.resolve plan.environment plan.location).run t = ⟨.ok found, u, resolving⟩)
    (hw : (factory.wrap found).run u = ⟨.error e, w, wrapping⟩) :
    (b.bootstrapWith plan).run s =
      ⟨.error (.incompatibleHandle plan.location e), w,
        (making ++ (resolving ++ (wrapping ++ [bootstrapEvent .warn
          "Adapter factory rejected the remote handle" [("error", e.message)]]))).map
            (·.inside (bootstrapSpan plan))⟩ := by
  unfold bootstrapWith
  rw [Act.run_inSpan, Act.run_bind_of_ok h (Act.run_bind_of_ok hr
    (Act.run_bind_of_error (Act.run_onError_of_error hw (run_wrapFailed plan.location e w))))]

/-- Where all four steps succeed, the bootstrap gives the proxy and reports that. -/
theorem run_bootstrapWith_of_ok {proxy : π}
    (h : (b.adapterFactory plan.factory).run s = ⟨.ok factory, t, making⟩)
    (hr : (b.connector.resolve plan.environment plan.location).run t = ⟨.ok found, u, resolving⟩)
    (hw : (factory.wrap found).run u = ⟨.ok proxy, w, wrapping⟩) :
    (b.bootstrapWith plan).run s =
      ⟨.ok proxy, w, (making ++ (resolving ++ (wrapping ++ [bootstrapEvent .info
        "Remote repository bootstrapped" []]))).map (·.inside (bootstrapSpan plan))⟩ := by
  have hend : (do Act.emit (bootstrapEvent .info "Remote repository bootstrapped" []); pure proxy :
      Act σ BootstrapError π).run w =
      ⟨.ok proxy, w, [bootstrapEvent .info "Remote repository bootstrapped" []]⟩ :=
    Act.run_bind_of_ok (Act.run_emit _ w) (Act.run_pure proxy w)
  unfold bootstrapWith
  rw [Act.run_inSpan, Act.run_bind_of_ok h (Act.run_bind_of_ok hr
    (Act.run_bind_of_ok (Act.run_onError_of_ok hw) hend))]

/-- A bootstrap reads its plan without a trace, and is then the bootstrap of that plan. -/
theorem run_bootstrap (b : Bootstrapper σ ρ π) (source : ParameterSource σ) (s : σ) :
    (b.bootstrap source).run s =
      (b.bootstrapWith (Plan.ofSource source s).1).run (Plan.ofSource source s).2 := by
  have hplan : (Act.ofState (Plan.ofSource source) : Act σ BootstrapError Plan).run s =
      ⟨.ok (Plan.ofSource source s).1, (Plan.ofSource source s).2, []⟩ := Act.run_ofState _ s
  exact Act.run_bind_of_silent hplan

end Bootstrapper

end Locator
