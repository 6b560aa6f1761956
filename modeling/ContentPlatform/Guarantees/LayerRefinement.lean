import ContentPlatform.World.Projection

/-!
# The layers around the endpoints

The application refines its endpoints: what its requests do to MySQL and Redis is a run of endpoints
alone, and every response is what one of them came to, or that of a request for which none was run.
-/

set_option autoImplicit false

namespace ContentPlatform

open Program Text

/-- However requests interleave and whatever fails in them. -/
theorem layers_refine_endpoints (σ : Setting) (a : Application) (http : Pid → HttpRequest)
    {s : Site}
    {c : HttpSystem} (run : σ.Handles (a.start http s) c) : ∃ d : CoreSystem,
      Steps (Exec σ.allow) σ.env (Config.initial s.world fun i => a.core (http i)) d ∧
      d.state = c.state.world ∧
      ∀ i outcome, c.outcome i = some outcome → ∃ ending, outcome = .ok ending ∧
        Mirrors a (http i) ending (d.code i) := by
  obtain ⟨d, inner, same, behind⟩ := run.behind
  refine ⟨d, inner, same, fun i outcome last => ?_⟩
  obtain ⟨ending, rfl, mirrors⟩ := (behind i).concluded last
  exact ⟨ending, rfl, mirrors⟩

theorem layers_refine_endpoints_of_delete : ∃ c ending, ∃ d : CoreSystem,
    (Setting.free (requestsOf [])).Handles
      (guardedApplication.start (fun _ => authorsDelete) oneArticleSite) c ∧
    c.outcome 0 = some (.ok ending) ∧ ending.response.map HttpResponse.status = some 204 ∧
    d.state = c.state.world ∧ Mirrors guardedApplication authorsDelete ending (d.code 0) := by
  obtain ⟨c, ending, run, ended, status⟩ := exists_authorsDelete
  obtain ⟨d, -, same, mirrors⟩ := layers_refine_endpoints (Setting.free (requestsOf []))
    guardedApplication (fun _ => authorsDelete) run
  obtain ⟨_, whole, mirrors⟩ := mirrors 0 _ ended
  obtain rfl := Except.ok.inj whole
  exact ⟨c, ending, d, run, ended, status, same, mirrors⟩

end ContentPlatform
