import Readiness.Launch
import Readiness.Proofs.Settings.Resolution

/-!
This module contains how a launch ends. Settings that are refused are reported and nothing is served. Settings that are
accepted are served once, with the port and the times that they give, as long as these times can be told in integers;
a time that is too large for that is accepted all the same, and then the launch fails.
-/

namespace Readiness

/-- All times can be told in integers: the startup delay in nanoseconds, the others in seconds. -/
structure Settings.Tellable (c : Settings) : Prop where
  startupDelay : (c.startupDelay * .ofInt Duration.TimeUnit.second.nanos).isInfinite = false
  idleTimeout : c.idleTimeout.isInfinite = false
  shutdownWait : c.shutdownWait.isInfinite = false

theorem Settings.tellable_iff (c : Settings) : c.Tellable ↔
    (c.startupDelay * .ofInt Duration.TimeUnit.second.nanos).isInfinite = false ∧ c.idleTimeout.isInfinite = false
      ∧ c.shutdownWait.isInfinite = false :=
  ⟨fun h => ⟨h.startupDelay, h.idleTimeout, h.shutdownWait⟩, fun h => ⟨h.1, h.2.1, h.2.2⟩⟩

instance (c : Settings) : Decidable c.Tellable :=
  decidable_of_iff _ c.tellable_iff.symm

namespace Launch

open Double (IsCeiling)

theorem format_cases {x : Double} (hx : x ≠ .nan) :
    ((x * .ofInt Duration.TimeUnit.second.nanos).isInfinite = true ∧ Duration.format x = .error .infinite)
      ∨ ((x * .ofInt Duration.TimeUnit.second.nanos).isInfinite = false ∧ ∃ text, Duration.format x = .ok text) := by
  have hproduct : x * .ofInt Duration.TimeUnit.second.nanos ≠ .nan :=
    Double.mul_ofInt_ne_nan hx (Duration.TimeUnit.nanos_pos _) (Duration.TimeUnit.nanos_le _)
  unfold Duration.format Duration.nanos Double.roundToInt
  rcases Double.toIntegerWith_cases (fun _ n => Double.roundDiv n Double.scale) hproduct with ⟨hinf, h⟩ | ⟨hinf, n, h⟩
  . rw [h]
    exact .inl ⟨hinf, rfl⟩
  . rw [h]
    exact .inr ⟨hinf, _, rfl⟩

theorem ofSettings_cases {c : Settings} (hc : c.startupDelay ≠ .nan) (exercised : Bool) :
    ((c.startupDelay * .ofInt Duration.TimeUnit.second.nanos).isInfinite = true
        ∧ Service.ofSettings c exercised = .error .infinite)
      ∨ ((c.startupDelay * .ofInt Duration.TimeUnit.second.nanos).isInfinite = false
        ∧ ∃ s, Service.ofSettings c exercised = .ok s ∧ s.settings = c) := by
  unfold Service.ofSettings
  rcases format_cases hc with ⟨hinf, h⟩ | ⟨hinf, text, h⟩
  . rw [h]
    exact .inl ⟨hinf, rfl⟩
  . rw [h]
    exact .inr ⟨hinf, _, rfl, rfl⟩

/-- The server has the port of the settings, and their times in whole seconds, rounded up. -/
structure ServerConfig.Fits (config : ServerConfig) (c : Settings) : Prop where
  port : config.port = c.port
  keepAlive : IsCeiling config.keepAlive c.idleTimeout
  gracefulShutdown : IsCeiling config.gracefulShutdown c.shutdownWait

theorem ServerConfig.ofSettings_cases {c : Settings} (hidle : c.idleTimeout ≠ .nan) (hwait : c.shutdownWait ≠ .nan) :
    ((c.idleTimeout.isInfinite = true ∨ c.shutdownWait.isInfinite = true) ∧ ofSettings c = .error .infinite)
      ∨ (c.idleTimeout.isInfinite = false ∧ c.shutdownWait.isInfinite = false
        ∧ ∃ config, ofSettings c = .ok config ∧ config.Fits c) := by
  have hidle' : c.idleTimeout.isInfinite = true ∧ c.idleTimeout.ceilToInt = .error .infinite
      ∨ c.idleTimeout.isInfinite = false ∧ ∃ n, c.idleTimeout.ceilToInt = .ok n :=
    Double.toIntegerWith_cases _ hidle
  have hwait' : c.shutdownWait.isInfinite = true ∧ c.shutdownWait.ceilToInt = .error .infinite
      ∨ c.shutdownWait.isInfinite = false ∧ ∃ n, c.shutdownWait.ceilToInt = .ok n :=
    Double.toIntegerWith_cases _ hwait
  unfold ofSettings
  rcases hidle' with ⟨hinf, h⟩ | ⟨hfin, n, hn⟩
  . rw [h]
    exact .inl ⟨.inl hinf, rfl⟩
  . rcases hwait' with ⟨hinf, h⟩ | ⟨hfin', m, hm⟩
    . rw [hn, h]
      exact .inl ⟨.inr hinf, rfl⟩
    . rw [hn, hm]
      exact .inr ⟨hfin, hfin', _, rfl, rfl, Double.isCeiling_of_ceilToInt hn, Double.isCeiling_of_ceilToInt hm⟩

theorem launch_of_error {sources : Settings.Sources} {refusals : List Settings.Refusal}
    (h : Settings.resolve sources = .error refusals) : launch sources = .ok (.refused refusals) := by
  unfold launch
  rw [h]
  rfl

theorem launch_of_ok {sources : Settings.Sources} {c : Settings} (h : Settings.resolve sources = .ok c) :
    launch sources = do return .served (← Service.ofSettings c false) (← ServerConfig.ofSettings c) := by
  unfold launch
  rw [h]

/-- No duration of settings from texts is a NaN. -/
theorem ne_nan_of_resolve {sources : Settings.Sources} (harguments : sources.arguments = []) {c : Settings}
    (h : Settings.resolve sources = .ok c) :
    c.startupDelay ≠ .nan ∧ c.idleTimeout ≠ .nan ∧ c.shutdownWait ≠ .nan := by
  have hc := Settings.resolves_of_resolve h
  have hdefault (n : Int) := Double.ofInt_ne_nan n
  have hnan : ∀ a ∈ sources.arguments, a.2 ≠ .real .nan := by
    simp [harguments]
  exact ⟨Settings.Sources.checkDuration_ne_nan hnan (hdefault 30) hc.startupDelay,
    Settings.Sources.checkDuration_ne_nan hnan (hdefault 60) hc.idleTimeout,
    Settings.Sources.checkDuration_ne_nan hnan (hdefault 10) hc.shutdownWait⟩

theorem port_of_resolve {sources : Settings.Sources} {c : Settings} (h : Settings.resolve sources = .ok c) :
    1 ≤ c.port ∧ c.port ≤ 65535 := by
  have hdefault : 1 ≤ Settings.defaults.port ∧ ∀ g, some 65535 = some g → Settings.defaults.port ≤ g := by
    decide
  obtain ⟨hleast, hgreatest⟩ :=
    Settings.Sources.checkInteger_ok hdefault (Settings.resolves_of_resolve h).port
  exact ⟨hleast, hgreatest 65535 rfl⟩

theorem launch_of_tellable {sources : Settings.Sources} (harguments : sources.arguments = []) {c : Settings}
    (h : Settings.resolve sources = .ok c) (hc : c.Tellable) :
    ∃ s config, launch sources = .ok (.served s config) ∧ s.settings = c ∧ config.Fits c := by
  obtain ⟨hdelay, hidle, hwait⟩ := ne_nan_of_resolve harguments h
  rcases ofSettings_cases hdelay false with ⟨hinf, _⟩ | ⟨_, s, hs, hsettings⟩
  . rw [hc.startupDelay] at hinf
    cases hinf
  . rcases ServerConfig.ofSettings_cases hidle hwait with ⟨hinf, _⟩ | ⟨_, _, config, hconfig, hfits⟩
    . rw [hc.idleTimeout, hc.shutdownWait] at hinf
      rcases hinf with hinf | hinf <;> cases hinf
    . refine ⟨s, config, ?_, hsettings, hfits⟩
      rw [launch_of_ok h, hs, hconfig]
      rfl

theorem launch_of_not_tellable {sources : Settings.Sources} (harguments : sources.arguments = []) {c : Settings}
    (h : Settings.resolve sources = .ok c) (hc : ¬ c.Tellable) : launch sources = .error .infinite := by
  obtain ⟨hdelay, hidle, hwait⟩ := ne_nan_of_resolve harguments h
  rw [launch_of_ok h]
  rcases ofSettings_cases hdelay false with ⟨_, hs⟩ | ⟨hfin, s, hs, _⟩
  . rw [hs]
    rfl
  . rcases ServerConfig.ofSettings_cases hidle hwait with ⟨_, hconfig⟩ | ⟨hfin', hfin'', _⟩
    . rw [hs, hconfig]
      rfl
    . exact absurd ⟨hfin, hfin', hfin''⟩ hc

/--
A launch from texts is refused and reports why, or it serves once as the settings say. It only fails for a time that
is accepted and too large to be told in integers.
-/
theorem launch_outcomes (environment : List (String × String)) (file : Option String) :
    let sources : Settings.Sources := { environment, file }
    (∀ refusals, Settings.resolve sources = .error refusals →
        launch sources = .ok (.refused refusals) ∧ (Result.refused refusals).exitCode = 2
          ∧ "invalid configuration:" ∈ complaints sources (.refused refusals)
          ∧ ∀ logger start stop, lines logger start stop (.refused refusals) = [])
      ∧ ∀ c, Settings.resolve sources = .ok c →
        (1 ≤ c.port ∧ c.port ≤ 65535)
          ∧ (c.Tellable → ∃ s config, launch sources = .ok (.served s config) ∧ s.settings = c ∧ config.Fits c)
          ∧ (¬ c.Tellable → launch sources = .error .infinite)
          ∧ ∀ exercised, (∃ s, Service.ofSettings c exercised = .ok s) ↔
              (c.startupDelay * .ofInt Duration.TimeUnit.second.nanos).isInfinite = false := by
  intro sources
  refine ⟨?_, ?_⟩
  . intro refusals h
    refine ⟨launch_of_error h, rfl, ?_, fun _ _ _ => rfl⟩
    exact List.mem_append_right _ List.mem_cons_self
  . intro c h
    refine ⟨port_of_resolve h, launch_of_tellable rfl h, launch_of_not_tellable rfl h, ?_⟩
    intro exercised
    rcases ofSettings_cases (ne_nan_of_resolve rfl h).1 exercised with ⟨hinf, hs⟩ | ⟨hfin, s, hs, _⟩
    . rw [hs, hinf]
      simp
    . rw [hs, hfin]
      simp

/-- Fractions of a second are rounded up. -/
theorem launch_outcomes_half_second :
    let sources : Settings.Sources := { environment := [("PORT", "9191"), ("idle_timeout", "1.5")] }
    ∃ c s config, Settings.resolve sources = .ok c ∧ c.Tellable ∧ launch sources = .ok (.served s config)
      ∧ config.port = 9191 ∧ IsCeiling config.keepAlive (.ofInt 3 / .ofInt 2) := by
  intro sources
  have hc : ((Settings.resolve sources).toOption.map fun c => (c.Tellable : Bool) && c.port = 9191
      && c.idleTimeout = .ofInt 3 / .ofInt 2) = some true := by
    decide +kernel
  cases h : Settings.resolve sources with
  | error refusals =>
    rw [h] at hc
    cases hc
  | ok c =>
    rw [h] at hc
    simp only [Except.toOption, Option.map_some, Option.some.injEq, Bool.and_eq_true, decide_eq_true_eq] at hc
    obtain ⟨⟨htellable, hport⟩, hidle⟩ := hc
    obtain ⟨_, hserved, _⟩ := (launch_outcomes _ _).2 c h
    obtain ⟨s, config, hlaunch, _, hfits⟩ := hserved htellable
    refine ⟨c, s, config, rfl, htellable, hlaunch, hfits.port.trans hport, ?_⟩
    rw [← hidle]
    exact hfits.keepAlive

/-- A delay of `10 ^ 300` seconds is accepted, but its nanoseconds are no finite double. -/
theorem launch_fails_on_huge_delay :
    let delay := String.ofList ('1' :: List.replicate 300 '0')
    let sources : Settings.Sources := { environment := [("STARTUP_DELAY", delay)] }
    (∃ c, Settings.resolve sources = .ok c) ∧ launch sources = .error .infinite := by
  intro delay sources
  have hc : ((Settings.resolve sources).toOption.map fun c => (c.Tellable : Bool)) = some false := by
    decide +kernel
  cases h : Settings.resolve sources with
  | error refusals =>
    rw [h] at hc
    cases hc
  | ok c =>
    rw [h] at hc
    simp only [Except.toOption, Option.map_some, Option.some.injEq, decide_eq_false_iff_not] at hc
    exact ⟨⟨c, rfl⟩, launch_of_not_tellable rfl h hc⟩

end Launch
end Readiness
