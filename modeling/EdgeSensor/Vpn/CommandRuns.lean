import EdgeSensor.Vpn.Commands

/-!
# VPN commands at once

`commands_serial`: in every run of requests that all return `ok`, if each request replaces
`desired.json` while the epoch is still the one that it read, the file is in the end what the
requests make of it one after another, in the order in which they replaced it; no two
commands have produced the same epoch; and no `set_auto_reconnect` has touched the connection.

That all return `ok` says already that no request wrote the `.tmp` while another was to rename
it (`SharedTemp.Short`). What it does not say is that nobody has replaced the file in between,
and `disconnect_lost` is what may come of that.
-/

namespace EdgeSensor.Vpn

open EdgeSensor.Lib EdgeSensor.Py

section Runs

variable {ι : Type}

/-- What a request has written and not yet renamed. -/
def RequestPhase.pending : RequestPhase → Option Json
  | .replace _ _ payload => some (.obj payload)
  | _ => none

/-- The `.tmp`, and who is to rename it. -/
def ConsoleRun.shared (s : ConsoleRun ι) : SharedTemp ι Json :=
  { pending := RequestPhase.pending ∘ s.phase, temp := s.temp }

/-- The request has returned `ok`, and has replaced the file by `payload`. -/
def ConsoleRun.Accepted (s : ConsoleRun ι) (p : ι) : Prop :=
  ∃ reply payload, s.phase p = .accepted reply payload

/-- A request has not returned `ok`, or there are more requests to rename than files. -/
def ConsoleRun.Bad (s : ConsoleRun ι) : Prop :=
  (∃ p reply, s.phase p = .failed reply) ∨ s.shared.Short

/-- A step that replaces the file: the epoch is still the one that was read, and a connect that
found no credentials for its profile is not behind one that stored some. -/
structure ConsoleRun.Fresh (console : VpnConsole) (requests : ι → Request) (s : ConsoleRun ι)
    (p : ι) : Prop where
  epoch : ∀ useAuth prev payload, s.phase p = .replace useAuth prev payload →
    ∀ current, s.files.readDesired = some current →
      console.text.epoch current = console.text.epoch prev
  auth : ∀ prev payload, s.phase p = .replace false prev payload →
    ∀ profile redirectGateway autoReconnect username password,
      (requests p).command = .connect profile redirectGateway autoReconnect username password →
      ∀ q, s.Accepted q → (requests q).command.stores profile = false

/-- What is claimed of requests that have all returned `ok`. -/
structure ConsoleRun.Serial (console : VpnConsole) (requests : ι → Request) (first : VpnFiles)
    (s : ConsoleRun ι) : Prop where
  file : ∃ order : List ι, order.Nodup ∧ (∀ p, p ∈ order) ∧ s.files.desired
    = (order.foldl (fun files p => (requests p).exec console files) first).desired
  epochs : ∀ p q, p ≠ q → (requests p).command.bumps = true → (requests q).command.bumps = true →
    ∀ reply payload, s.phase p = .accepted reply payload →
    ∀ reply' payload', s.phase q = .accepted reply' payload' →
      console.text.epoch payload ≠ console.text.epoch payload'

/-! ## The invariant -/

/-- What has become of what a request read: nobody has replaced it by a new epoch and the request
would still write the same, or somebody has. -/
def VpnFiles.Since (text : NumberText) (r : Request) (useAuth : Bool) (prev payload : Obj)
    (files : VpnFiles) : Prop :=
  ∃ current, files.readDesired = some current
    ∧ ((text.epoch current = text.epoch prev ∧ r.payload text useAuth current = some payload)
      ∨ ∃ e e', text.epoch prev = some e ∧ text.epoch current = some e' ∧ e < e')

/-- The credentials, as the request found them. -/
def Request.Looked (first files : VpnFiles) (r : Request) (useAuth : Bool) : Prop :=
  match r.command with
  | .connect profile _ _ username password =>
    if useAuth then (files.auth profile).isSome = true
    else hasCredentials username password = false ∧ first.auth profile = none
  | _ => useAuth = false

/-- What holds of a request in its phase. -/
def Request.Fits (console : VpnConsole) (first files : VpnFiles) (r : Request) :
    RequestPhase → Prop
  | .enter => True
  | .read useAuth => r.Looked first files useAuth
  | .write useAuth prev payload =>
    r.Looked first files useAuth ∧ files.Since console.text r useAuth prev payload
  | .replace useAuth prev payload =>
    r.Looked first files useAuth ∧ files.Since console.text r useAuth prev payload
  | .accepted _ payload => r.command.bumps = true → ∃ current e e', files.readDesired = some current
    ∧ console.text.epoch payload = some e ∧ console.text.epoch current = some e' ∧ e ≤ e'
  | .failed _ => True

/-- `desired.json` is what the requests that have replaced it make of it one after another, `serial`;
but for the credentials, where a connect that stored some has not replaced it yet. -/
def ConsoleRun.Tracks (requests : ι → Request) (serial : VpnFiles) (s : ConsoleRun ι) : Prop :=
  s.files.desired = serial.desired
    ∨ ∃ o o', s.files.desired = some (.obj o) ∧ serial.desired = some (.obj o') ∧ ButAuth o o'
      ∧ ∃ q profile, (requests q).command.stores profile = true ∧ ¬ s.Accepted q

/-- The invariant, with the requests that have replaced the file, in order. -/
structure ConsoleRun.Sound (console : VpnConsole) (requests : ι → Request) (first : VpnFiles)
    (order : List ι) (s : ConsoleRun ι) : Prop where
  nodup : order.Nodup
  mem : ∀ p, p ∈ order ↔ s.Accepted p
  checked : ∀ p, s.phase p ≠ .enter → console.check (requests p).command = none
  auth : ∀ profile, (s.files.auth profile).isSome = true
    ↔ (first.auth profile).isSome = true
      ∨ ∃ p, s.phase p ≠ .enter ∧ (requests p).command.stores profile = true
  serialAuth : ∀ profile,
    ((order.foldl (fun files p => (requests p).exec console files) first).auth profile).isSome = true
    ↔ (first.auth profile).isSome = true ∨ ∃ p ∈ order, (requests p).command.stores profile = true
  fits : ∀ p, (requests p).Fits console first s.files (s.phase p)
  epochs : ∀ p q, p ≠ q → (requests p).command.bumps = true → (requests q).command.bumps = true →
    ∀ reply payload, s.phase p = .accepted reply payload →
    ∀ reply' payload', s.phase q = .accepted reply' payload' →
      console.text.epoch payload ≠ console.text.epoch payload'
  tracks : s.Tracks requests (order.foldl (fun files p => (requests p).exec console files) first)
  owned : s.shared.Owned

variable {console : VpnConsole} {requests : ι → Request} {first : VpnFiles} {order : List ι}
  {s s' : ConsoleRun ι} {p : ι}

theorem pending_of_phase {phase : RequestPhase} (hphase : s.phase p = phase) :
    s.shared.pending p = phase.pending :=
  congrArg RequestPhase.pending hphase

theorem not_accepted {phase : RequestPhase} (hphase : s.phase p = phase)
    (h : ∀ reply payload, phase ≠ .accepted reply payload) : ¬ s.Accepted p := by
  rintro ⟨reply, payload, hacc⟩
  exact h reply payload (hphase.symm.trans hacc)

/-- What `read` finds depends on `desired.json` alone. -/
theorem readDesired_congr {files files' : VpnFiles} (h : files'.desired = files.desired) :
    files'.readDesired = files.readDesired := by
  unfold VpnFiles.readDesired
  rw [h]

theorem Request.Looked.mono {files files' : VpnFiles} {r : Request} {useAuth : Bool}
    (hgrow : ∀ profile, (files.auth profile).isSome = true → (files'.auth profile).isSome = true)
    (h : r.Looked first files useAuth) : r.Looked first files' useAuth := by
  unfold Request.Looked at h ⊢
  cases hcommand : r.command with
  | connect profile redirectGateway autoReconnect username password =>
    rw [hcommand] at h
    cases useAuth with
    | true => exact hgrow profile h
    | false => exact h
  | setAutoReconnect on =>
    rw [hcommand] at h
    exact h
  | disconnect =>
    rw [hcommand] at h
    exact h

/-- New credentials change nothing for a request that has looked. -/
theorem Request.Fits.mono {files files' : VpnFiles} {r : Request} {phase : RequestPhase}
    (hdesired : files'.desired = files.desired)
    (hgrow : ∀ profile, (files.auth profile).isSome = true → (files'.auth profile).isSome = true)
    (h : r.Fits console first files phase) : r.Fits console first files' phase := by
  have hread := readDesired_congr hdesired
  cases phase with
  | enter => trivial
  | read useAuth => exact Request.Looked.mono hgrow h
  | write useAuth prev payload =>
    refine ⟨h.1.mono hgrow, ?_⟩
    unfold VpnFiles.Since
    rw [hread]
    exact h.2
  | replace useAuth prev payload =>
    refine ⟨h.1.mono hgrow, ?_⟩
    unfold VpnFiles.Since
    rw [hread]
    exact h.2
  | accepted reply payload =>
    unfold Request.Fits
    rw [hread]
    exact h
  | failed reply => trivial

/-- A step that replaces nothing. -/
theorem ConsoleRun.Sound.advance (h : s.Sound console requests first order)
    (hother : ∀ q, q ≠ p → s'.phase q = s.phase q) (hdesired : s'.files.desired = s.files.desired)
    (hgrow : ∀ profile, (s.files.auth profile).isSome = true → (s'.files.auth profile).isSome = true)
    (hnot : ¬ s.Accepted p) (hnot' : ¬ s'.Accepted p)
    (hcheck : console.check (requests p).command = none)
    (hauth : ∀ profile, (s'.files.auth profile).isSome = true
      ↔ (first.auth profile).isSome = true
        ∨ ∃ q, s'.phase q ≠ .enter ∧ (requests q).command.stores profile = true)
    (hfits : (requests p).Fits console first s'.files (s'.phase p)) (howned : s'.shared.Owned) :
    s'.Sound console requests first order := by
  have haccepted : ∀ q, s'.Accepted q ↔ s.Accepted q := by
    intro q
    by_cases hq : q = p
    · subst hq
      exact ⟨fun hacc => absurd hacc hnot', fun hacc => absurd hacc hnot⟩
    · unfold ConsoleRun.Accepted
      rw [hother q hq]
  have hphase : ∀ {q reply payload}, s'.phase q = .accepted reply payload →
      s.phase q = .accepted reply payload := by
    intro q reply payload hacc
    by_cases hq : q = p
    · subst hq
      exact absurd ⟨reply, payload, hacc⟩ hnot'
    · rw [← hother q hq]
      exact hacc
  refine ⟨h.nodup, fun q => (h.mem q).trans (haccepted q).symm, fun q hq => ?_, hauth, h.serialAuth,
    fun q => ?_, ?_, ?_, howned⟩
  · by_cases hqp : q = p
    · rw [hqp]
      exact hcheck
    · rw [hother q hqp] at hq
      exact h.checked q hq
  · by_cases hqp : q = p
    · rw [hqp]
      exact hfits
    · rw [hother q hqp]
      exact (h.fits q).mono hdesired hgrow
  · intro q q' hne hbumps hbumps' reply payload hq reply' payload' hq'
    exact h.epochs q q' hne hbumps hbumps' reply payload (hphase hq) reply' payload' (hphase hq')
  · rcases h.tracks with hsame | ⟨o, o', ho, ho', hbut, q, profile, hstores, hq⟩
    · exact .inl (hdesired.trans hsame)
    · exact .inr ⟨o, o', hdesired.trans ho, ho', hbut, q, profile, hstores,
        fun hacc => hq ((haccepted q).mp hacc)⟩

/-- A request that has looked for credentials and would find something else now, or one after
another: a connect that stored some is on its way. -/
theorem ConsoleRun.Sound.on_its_way (h : s.Sound console requests first order) {useAuth : Bool}
    {prev payload : Obj} (hphase : s.phase p = .replace useAuth prev payload)
    (hfresh : s.Fresh console requests p)
    (hne : useAuth ≠ ((requests p).command.lookUp
      (order.foldl (fun files p => (requests p).exec console files) first).auth).1) :
    ∃ q profile, (requests q).command.stores profile = true ∧ ¬ s.Accepted q ∧ q ≠ p := by
  have hlooked : (requests p).Looked first s.files useAuth := by
    have hfits := h.fits p
    rw [hphase] at hfits
    exact hfits.1
  unfold Request.Looked at hlooked
  unfold Command.lookUp at hne
  cases hcommand : (requests p).command with
  | setAutoReconnect on =>
    rw [hcommand] at hlooked hne
    exact absurd hlooked hne
  | disconnect =>
    rw [hcommand] at hlooked hne
    exact absurd hlooked hne
  | connect profile redirectGateway autoReconnect username password =>
    rw [hcommand] at hlooked hne
    simp only at hlooked hne
    cases hcredentials : hasCredentials username password with
    | true =>
      rw [hcredentials, if_pos rfl] at hne
      cases useAuth with
      | true => exact absurd rfl hne
      | false =>
        rw [hcredentials] at hlooked
        cases hlooked.1
    | false =>
      rw [hcredentials, if_neg Bool.false_ne_true] at hne
      have hserial := h.serialAuth profile
      cases huse : useAuth with
      | true =>
        rw [huse] at hlooked hne
        -- it found some that are not there one after another
        have hnone := mt hserial.mpr fun hthere => hne hthere.symm
        obtain ⟨hfirst, horder⟩ := not_or.mp hnone
        obtain ⟨q, -, hstores⟩ := ((h.auth profile).mp hlooked).resolve_left hfirst
        refine ⟨q, profile, hstores, fun hq => horder ⟨q, (h.mem q).mpr hq, hstores⟩, ?_⟩
        rintro rfl
        rw [hcommand] at hstores
        simp [Command.stores, hcredentials] at hstores
      | false =>
        rw [huse] at hlooked hne hphase
        -- it found none, though some are there one after another
        have hthere := hserial.mp (eq_true_of_ne_false hne.symm)
        rcases hthere with hfirst | ⟨q, hq, hstores⟩
        · rw [hlooked.2] at hfirst
          cases hfirst
        · rw [hfresh.auth prev payload hphase profile _ _ _ _ hcommand q ((h.mem q).mp hq)] at hstores
          cases hstores

theorem exec_desired {r : Request} {files : VpnFiles} {current payload : Obj}
    (hcheck : console.check r.command = none) (hread : files.readDesired = some current)
    (hpayload : r.payload console.text (r.command.lookUp files.auth).1 current = some payload) :
    (r.exec console files).desired = some (.obj payload) := by
  unfold Request.exec
  simp only [hcheck, hread, Option.bind_some, hpayload]

/-- What the request puts in the file is what it would put there one after another. -/
theorem ConsoleRun.Sound.replaces (h : s.Sound console requests first order) {useAuth : Bool}
    {prev payload current : Obj} (hphase : s.phase p = .replace useAuth prev payload)
    (hfresh : s.Fresh console requests p) (hread : s.files.readDesired = some current)
    (hpayload : (requests p).payload console.text useAuth current = some payload) :
    ∃ payload', ((requests p).exec console
        (order.foldl (fun files p => (requests p).exec console files) first)).desired
          = some (.obj payload')
      ∧ (payload = payload' ∨ ButAuth payload payload'
        ∧ ∃ q profile, (requests q).command.stores profile = true ∧ ¬ s.Accepted q ∧ q ≠ p) := by
  have hcheck := h.checked p (by rw [hphase]; simp)
  have hway := h.on_its_way hphase hfresh
  have htracks := h.tracks
  generalize order.foldl (fun files p => (requests p).exec console files) first = serial
    at hway htracks
  -- what the request reads one after another
  have hserial : ∃ current', serial.readDesired = some current' ∧ (current = current'
      ∨ ButAuth current current'
        ∧ ∃ q profile, (requests q).command.stores profile = true ∧ ¬ s.Accepted q) := by
    rcases htracks with hsame | ⟨o, o', ho, ho', hbut, hq⟩
    · exact ⟨current, (readDesired_congr hsame).symm.trans hread, .inl rfl⟩
    · have hcurrent : s.files.readDesired = some o := by
        unfold VpnFiles.readDesired
        rw [ho]
      rw [hread] at hcurrent
      cases hcurrent
      refine ⟨o', ?_, .inr ⟨hbut, hq⟩⟩
      unfold VpnFiles.readDesired
      rw [ho']
  obtain ⟨current', hread', hcurrent⟩ := hserial
  cases hbumps : (requests p).command.bumps with
  | true =>
    have hpayload₁ : (requests p).payload console.text useAuth current' = some payload := by
      rcases hcurrent with rfl | ⟨hbut, -⟩
      · exact hpayload
      · rw [← payload_butAuth hbut hbumps]
        exact hpayload
    obtain ⟨payload', hpayload₂, hdiffer⟩ :=
      payload_useAuth hpayload₁ ((requests p).command.lookUp serial.auth).1
    refine ⟨payload', exec_desired hcheck hread' hpayload₂, ?_⟩
    by_cases huse : useAuth = ((requests p).command.lookUp serial.auth).1
    · rw [← huse, hpayload₁] at hpayload₂
      cases hpayload₂
      exact .inl rfl
    · exact hdiffer.imp_right fun hbut => ⟨hbut, hway huse⟩
  | false =>
    obtain ⟨on, hkeeps⟩ := @payload_keeps console.text _ hbumps
    rw [hkeeps] at hpayload
    cases hpayload
    refine ⟨_, exec_desired hcheck hread' (hkeeps _ current'), ?_⟩
    rcases hcurrent with rfl | ⟨hbut, q, profile, hstores, hq⟩
    · exact .inl rfl
    · refine .inr ⟨hbut.withAutoReconnect on _, q, profile, hstores, hq, ?_⟩
      rintro rfl
      unfold Command.bumps at hbumps
      unfold Command.stores at hstores
      cases hcommand : (requests q).command with
      | connect name redirectGateway autoReconnect username password =>
        rw [hcommand] at hbumps
        cases hbumps
      | setAutoReconnect on =>
        rw [hcommand] at hstores
        cases hstores
      | disconnect =>
        rw [hcommand] at hstores
        cases hstores

/-! ## Steps -/

variable [DecidableEq ι]

theorem shared_goto {phase : RequestPhase} (h : phase.pending = (s.phase p).pending) :
    (s.goto p phase).shared = s.shared := by
  unfold ConsoleRun.shared ConsoleRun.goto
  rw [Function.comp_update, h]
  exact congrArg (SharedTemp.mk · s.temp) (Function.update_eq_self p _)

theorem step_phase_other {q : ι} (h : q ≠ p) :
    (s.step console requests p).phase q = s.phase q := by
  unfold ConsoleRun.step
  cases s.phase p with
  | enter =>
    simp only
    split
    next => exact goto_phase_other h
    next => exact goto_phase_other h
  | read useAuth =>
    simp only
    split
    next => exact goto_phase_other h
    next =>
      split
      next => exact goto_phase_other h
      next => exact goto_phase_other h
  | write useAuth prev payload => exact goto_phase_other h
  | replace useAuth prev payload =>
    simp only
    split
    next => exact goto_phase_other h
    next => exact goto_phase_other h
  | accepted reply payload => rfl
  | failed reply => rfl

theorem bad_of_failed {reply : Option Obj} (h : (s.step console requests p).phase p = .failed reply) :
    (s.step console requests p).Bad :=
  .inl ⟨p, reply, h⟩

theorem stores_lookUp {command : Command} {auth : String → Option String} (profile : String) :
    ((command.lookUp auth).2 profile).isSome = true
      ↔ (auth profile).isSome = true ∨ command.stores profile = true := by
  unfold Command.lookUp Command.stores
  cases command with
  | connect name redirectGateway autoReconnect username password =>
    simp only
    split
    next hcredentials =>
      rw [hcredentials, Bool.and_true, decide_eq_true_eq]
      by_cases hname : name = profile
      · subst hname
        simp only
        rw [Function.update_self]
        exact ⟨fun _ => .inr trivial, fun _ => rfl⟩
      · simp only
        rw [Function.update_of_ne (Ne.symm hname)]
        exact ⟨.inl, fun h => h.resolve_right hname⟩
    next hnone => simp [hnone]
  | setAutoReconnect on => simp
  | disconnect => simp

theorem looked_lookUp {r : Request} {files : VpnFiles}
    (hgrow : ∀ profile, (first.auth profile).isSome = true → (files.auth profile).isSome = true) :
    r.Looked first { files with auth := (r.command.lookUp files.auth).2 }
      (r.command.lookUp files.auth).1 := by
  unfold Request.Looked
  cases hcommand : r.command with
  | connect profile redirectGateway autoReconnect username password =>
    unfold Command.lookUp
    simp only
    cases hcredentials : hasCredentials username password with
    | true =>
      simp only [if_true]
      rw [Function.update_self]
      rfl
    | false =>
      simp only [Bool.false_eq_true, if_false]
      cases hfile : (files.auth profile).isSome with
      | true => simp only [if_true]
      | false =>
        simp only [Bool.false_eq_true, if_false]
        refine ⟨trivial, ?_⟩
        cases hfirst : first.auth profile with
        | none => rfl
        | some content =>
          have hthere := hgrow profile (by rw [hfirst]; rfl)
          rw [hfile] at hthere
          cases hthere
  | setAutoReconnect on => rfl
  | disconnect => rfl

/-- Who has entered stays so. -/
theorem ConsoleRun.Sound.entered (h : s.Sound console requests first order) {profile : String}
    (hother : ∀ q, q ≠ p → s'.phase q = s.phase q) (hphase : s.phase p ≠ .enter)
    (hphase' : s'.phase p ≠ .enter) (hauth : s'.files.auth = s.files.auth) :
    (s'.files.auth profile).isSome = true ↔ (first.auth profile).isSome = true
      ∨ ∃ q, s'.phase q ≠ .enter ∧ (requests q).command.stores profile = true := by
  rw [hauth, h.auth profile]
  refine or_congr_right (exists_congr fun q => and_congr_left fun _ => ?_)
  by_cases hq : q = p
  · rw [hq]
    exact ⟨fun _ => hphase', fun _ => hphase⟩
  · rw [hother q hq]

theorem ConsoleRun.Sound.step_enter (h : s.Sound console requests first order)
    (hphase : s.phase p = .enter) (hok : ¬ (s.step console requests p).Bad) :
    (s.step console requests p).Sound console requests first order := by
  cases hcheck : console.check (requests p).command with
  | some reply =>
    refine absurd (@bad_of_failed _ _ _ _ _ _ (some reply) ?_) hok
    unfold ConsoleRun.step
    rw [hphase]
    simp only [hcheck]
    exact goto_phase_self
  | none =>
    have hstep : s.step console requests p =
        { s.goto p (.read ((requests p).command.lookUp s.files.auth).1) with
          files := { s.files with auth := ((requests p).command.lookUp s.files.auth).2 } } := by
      unfold ConsoleRun.step
      rw [hphase]
      simp only [hcheck]
    have hself : (s.step console requests p).phase p
        = .read ((requests p).command.lookUp s.files.auth).1 := by
      rw [hstep]
      exact goto_phase_self
    have hfirst : ∀ profile, (first.auth profile).isSome = true → (s.files.auth profile).isSome = true :=
      fun profile hthere => (h.auth profile).mpr (.inl hthere)
    refine h.advance (fun q => step_phase_other) ?_ (fun profile hthere => ?_)
      (not_accepted hphase fun _ _ => by simp) (not_accepted hself fun _ _ => by simp) hcheck
      (fun profile => ?_) ?_ ?_
    · rw [hstep]
    · rw [hstep]
      exact (stores_lookUp profile).mpr (.inl hthere)
    · -- what is there was there, or is this request's
      rw [show (s.step console requests p).files.auth = _ from congrArg (·.files.auth) hstep]
      simp only
      rw [stores_lookUp, h.auth profile, or_assoc]
      refine or_congr_right ⟨?_, ?_⟩
      · rintro (⟨q, hq, hstores⟩ | hstores)
        · refine ⟨q, ?_, hstores⟩
          rw [step_phase_other]
          · exact hq
          · rintro rfl
            exact hq hphase
        · exact ⟨p, by rw [hself]; simp, hstores⟩
      · rintro ⟨q, hq, hstores⟩
        by_cases hqp : q = p
        · exact .inr (hqp ▸ hstores)
        · rw [step_phase_other hqp] at hq
          exact .inl ⟨q, hq, hstores⟩
    · rw [hself, hstep]
      exact looked_lookUp hfirst
    · rw [hstep]
      show (s.goto p _).shared.Owned
      rw [shared_goto (by rw [hphase]; rfl)]
      exact h.owned

theorem ConsoleRun.Sound.step_read (h : s.Sound console requests first order) {useAuth : Bool}
    (hphase : s.phase p = .read useAuth) (hok : ¬ (s.step console requests p).Bad) :
    (s.step console requests p).Sound console requests first order := by
  have hlooked := h.fits p
  rw [hphase] at hlooked
  cases hread : s.files.readDesired with
  | none =>
    refine absurd (@bad_of_failed _ _ _ _ _ _ none ?_) hok
    unfold ConsoleRun.step
    rw [hphase]
    simp only [hread]
    exact goto_phase_self
  | some prev =>
    cases hpayload : (requests p).payload console.text useAuth prev with
    | none =>
      refine absurd (@bad_of_failed _ _ _ _ _ _ none ?_) hok
      unfold ConsoleRun.step
      rw [hphase]
      simp only [hread, hpayload]
      exact goto_phase_self
    | some payload =>
      have hstep : s.step console requests p = s.goto p (.write useAuth prev payload) := by
        unfold ConsoleRun.step
        rw [hphase]
        simp only [hread, hpayload]
      have hself : (s.step console requests p).phase p = .write useAuth prev payload := by
        rw [hstep]
        exact goto_phase_self
      have hentered : s.phase p ≠ .enter := by rw [hphase]; simp
      have hfiles : (s.step console requests p).files = s.files := by
        rw [hstep]
        rfl
      refine h.advance (fun q => step_phase_other) (by rw [hfiles]) (fun profile hthere => ?_)
        (not_accepted hphase fun _ _ => by simp) (not_accepted hself fun _ _ => by simp)
        (h.checked p hentered)
        (fun profile => h.entered (fun q => step_phase_other) hentered (by rw [hself]; simp) ?_) ?_ ?_
      · rw [hfiles]
        exact hthere
      · rw [hfiles]
      · rw [hself, hfiles]
        exact ⟨hlooked, prev, hread, .inl ⟨rfl, hpayload⟩⟩
      · rw [hstep, shared_goto (by rw [hphase]; rfl)]
        exact h.owned

theorem ConsoleRun.Sound.step_write (h : s.Sound console requests first order) {useAuth : Bool}
    {prev payload : Obj} (hphase : s.phase p = .write useAuth prev payload)
    (hok : ¬ (s.step console requests p).Bad) :
    (s.step console requests p).Sound console requests first order := by
  have hfits := h.fits p
  rw [hphase] at hfits
  have hstep : s.step console requests p =
      { s.goto p (.replace useAuth prev payload) with temp := some (.obj payload) } := by
    unfold ConsoleRun.step
    rw [hphase]
  have hself : (s.step console requests p).phase p = .replace useAuth prev payload := by
    rw [hstep]
    exact goto_phase_self
  have hshared : (s.step console requests p).shared = s.shared.write p (.obj payload) := by
    rw [hstep]
    unfold ConsoleRun.shared SharedTemp.write ConsoleRun.goto
    rw [Function.comp_update]
    rfl
  have hentered : s.phase p ≠ .enter := by rw [hphase]; simp
  have hfiles : (s.step console requests p).files = s.files := by
    rw [hstep]
    rfl
  -- nobody else is to rename: else there would be more of them than files
  have hfree : s.shared.Free := by
    by_contra hbusy
    refine hok (.inr ?_)
    rw [hshared]
    exact SharedTemp.short_write (pending_of_phase hphase) hbusy
  refine h.advance (fun q => step_phase_other) (by rw [hfiles]) (fun profile hthere => ?_)
    (not_accepted hphase fun _ _ => by simp) (not_accepted hself fun _ _ => by simp)
    (h.checked p hentered)
    (fun profile => h.entered (fun q => step_phase_other) hentered (by rw [hself]; simp) ?_) ?_ ?_
  · rw [hfiles]
    exact hthere
  · rw [hfiles]
  · rw [hself, hfiles]
    exact hfits
  · rw [hshared]
    exact hfree.owned_write

/-! ### The step that replaces the file -/

theorem exec_auth {r : Request} {files : VpnFiles} (hcheck : console.check r.command = none)
    (profile : String) : ((r.exec console files).auth profile).isSome = true
      ↔ (files.auth profile).isSome = true ∨ r.command.stores profile = true := by
  rw [← stores_lookUp]
  unfold Request.exec
  simp only [hcheck]
  split
  next => rfl
  next => rfl

/-- What has become of what a request read, when another one has replaced the file. -/
theorem VpnFiles.Since.replaced {text : NumberText} {r r' : Request} {useAuth useAuth' : Bool}
    {prev payload current payload' : Obj} {files files' : VpnFiles}
    (hread : files.readDesired = some current)
    (hpayload : r'.payload text useAuth' current = some payload')
    (hread' : files'.readDesired = some payload') (h : files.Since text r useAuth prev payload) :
    files'.Since text r useAuth prev payload := by
  obtain ⟨current', hcurrent, hcases⟩ := h
  rw [hread] at hcurrent
  cases hcurrent
  refine ⟨payload', hread', ?_⟩
  cases hbumps : r'.command.bumps with
  | true =>
    obtain ⟨e, he, he'⟩ := payload_epoch hbumps hpayload
    rcases hcases with ⟨hsame, -⟩ | ⟨e₁, e₂, he₁, he₂, hlt⟩
    · exact .inr ⟨e, e + 1, hsame.symm.trans he, he', by omega⟩
    · rw [he] at he₂
      cases he₂
      exact .inr ⟨e₁, e + 1, he₁, he', by omega⟩
  | false =>
    obtain ⟨on, hkeeps⟩ := @payload_keeps text _ hbumps
    rw [hkeeps] at hpayload
    cases hpayload
    obtain ⟨-, -, hepoch⟩ := @withAutoReconnect_frame text on r'.now current
    rw [hepoch, payload_withAutoReconnect]
    exact hcases

/-- A request in its phase, when another one has replaced the file. -/
theorem Request.Fits.replaced {r r' : Request} {useAuth : Bool} {current payload : Obj}
    {files files' : VpnFiles} {phase : RequestPhase} (hread : files.readDesired = some current)
    (hpayload : r'.payload console.text useAuth current = some payload)
    (hread' : files'.readDesired = some payload) (hauth : files'.auth = files.auth)
    (h : r.Fits console first files phase) : r.Fits console first files' phase := by
  have hgrow : ∀ profile, (files.auth profile).isSome = true → (files'.auth profile).isSome = true := by
    rw [hauth]
    exact fun _ hthere => hthere
  cases phase with
  | enter => trivial
  | read useAuth' => exact Request.Looked.mono hgrow h
  | write useAuth' prev' payload' => exact ⟨h.1.mono hgrow, h.2.replaced hread hpayload hread'⟩
  | replace useAuth' prev' payload' => exact ⟨h.1.mono hgrow, h.2.replaced hread hpayload hread'⟩
  | accepted reply' payload' =>
    intro hbumps
    obtain ⟨current', e, e', hcurrent', he, he', hle⟩ := h hbumps
    rw [hread] at hcurrent'
    cases hcurrent'
    cases hbumps' : r'.command.bumps with
    | true =>
      obtain ⟨n, hn, hn'⟩ := payload_epoch hbumps' hpayload
      have heq : n = e' := Option.some.inj (hn.symm.trans he')
      exact ⟨payload, e, n + 1, hread', he, hn', by omega⟩
    | false =>
      obtain ⟨on, hkeeps⟩ := @payload_keeps console.text _ hbumps'
      rw [hkeeps] at hpayload
      cases hpayload
      obtain ⟨-, -, hepoch⟩ := @withAutoReconnect_frame console.text on r'.now current
      exact ⟨_, e, e', hread', he, hepoch.trans he', hle⟩
  | failed reply' => trivial

/-- A new epoch is not one that somebody has produced already. -/
theorem Request.Fits.epoch_ne {r r' : Request} {useAuth : Bool} {current payload reply' payload' : Obj}
    {files : VpnFiles} (hread : files.readDesired = some current)
    (hpayload : r'.payload console.text useAuth current = some payload)
    (hbumps' : r'.command.bumps = true) (hbumps : r.command.bumps = true)
    (h : r.Fits console first files (.accepted reply' payload')) :
    console.text.epoch payload' ≠ console.text.epoch payload := by
  obtain ⟨current', e, e', hcurrent', he, he', hle⟩ := h hbumps
  rw [hread] at hcurrent'
  cases hcurrent'
  obtain ⟨n, hn, hn'⟩ := payload_epoch hbumps' hpayload
  have heq : n = e' := Option.some.inj (hn.symm.trans he')
  rw [he, hn']
  intro hsame
  have heq' : e = n + 1 := Option.some.inj hsame
  omega

theorem ConsoleRun.Sound.step_replace (h : s.Sound console requests first order) {useAuth : Bool}
    {prev payload : Obj} (hphase : s.phase p = .replace useAuth prev payload)
    (hfresh : s.Fresh console requests p) :
    (s.step console requests p).Sound console requests first (order ++ [p])
      ∧ ∃ current, s.files.readDesired = some current
        ∧ (requests p).payload console.text useAuth current = some payload
        ∧ (s.step console requests p).files.desired = some (.obj payload) := by
  -- the `.tmp` holds what this request wrote
  obtain ⟨htemp, -⟩ := h.owned p (.obj payload) (pending_of_phase hphase)
  have hstep : s.step console requests p =
      { s.goto p (.accepted ((requests p).reply payload) payload) with
        files := { s.files with desired := some (.obj payload) }, temp := none } := by
    unfold ConsoleRun.step
    rw [hphase]
    simp only [show s.temp = some (.obj payload) from htemp]
  have hself : (s.step console requests p).phase p
      = .accepted ((requests p).reply payload) payload := by
    rw [hstep]
    exact goto_phase_self
  have hother : ∀ {q}, q ≠ p → (s.step console requests p).phase q = s.phase q :=
    fun hq => step_phase_other hq
  -- and this request would write the same now
  have hcurrent : ∃ current, s.files.readDesired = some current
      ∧ (requests p).payload console.text useAuth current = some payload := by
    have hfits := h.fits p
    rw [hphase] at hfits
    obtain ⟨-, current, hread, hcases⟩ := hfits
    have hepoch := hfresh.epoch useAuth prev payload hphase current hread
    refine ⟨current, hread, ?_⟩
    rcases hcases with ⟨-, hpayload⟩ | ⟨e, e', he, he', hlt⟩
    · exact hpayload
    · rw [hepoch, he] at he'
      cases he'
      omega
  obtain ⟨current, hread, hpayload⟩ := hcurrent
  have hread' : (s.step console requests p).files.readDesired = some payload := by
    rw [hstep]
    rfl
  have hauth : (s.step console requests p).files.auth = s.files.auth := by
    rw [hstep]
  have hentered : s.phase p ≠ .enter := by rw [hphase]; simp
  have hnot : ¬ s.Accepted p := not_accepted hphase fun _ _ => by simp
  have haccepted : (s.step console requests p).Accepted p := ⟨_, _, hself⟩
  -- an epoch that another one has produced is another one
  have hbefore : ∀ q, q ≠ p → (requests q).command.bumps = true →
      ∀ reply payload', (s.step console requests p).phase q = .accepted reply payload' →
      (requests p).command.bumps = true →
      console.text.epoch payload' ≠ console.text.epoch payload := by
    intro q hq hbumps reply payload' haccepted hbumps'
    have hfits := h.fits q
    rw [← hother hq, haccepted] at hfits
    exact hfits.epoch_ne hread hpayload hbumps' hbumps
  refine ⟨⟨?_, fun q => ?_, fun q hq => ?_, fun profile => ?_, fun profile => ?_, fun q => ?_, ?_, ?_, ?_⟩,
    current, hread, hpayload, by rw [hstep]⟩
  · refine List.nodup_append.mpr ⟨h.nodup, List.pairwise_singleton _ p, fun q hq q' hq' => ?_⟩
    rw [List.mem_singleton.mp hq']
    rintro rfl
    exact hnot ((h.mem q).mp hq)
  · rw [List.mem_append, List.mem_singleton, h.mem q]
    by_cases hqp : q = p
    · subst hqp
      exact ⟨fun _ => haccepted, fun _ => .inr rfl⟩
    · unfold ConsoleRun.Accepted
      rw [hother hqp]
      exact ⟨fun hq => hq.resolve_right hqp, .inl⟩
  · by_cases hqp : q = p
    · rw [hqp]
      exact h.checked p hentered
    · rw [hother hqp] at hq
      exact h.checked q hq
  · exact h.entered (fun q => step_phase_other) hentered (by rw [hself]; simp) hauth
  · rw [List.foldl_append, List.foldl_cons, List.foldl_nil, exec_auth (h.checked p hentered),
      h.serialAuth profile, or_assoc]
    refine or_congr_right ?_
    simp only [List.mem_append, List.mem_singleton, or_and_right, exists_or, exists_eq_left]
  · by_cases hqp : q = p
    · subst hqp
      rw [hself]
      intro hbumps
      obtain ⟨e, -, he⟩ := payload_epoch hbumps hpayload
      exact ⟨payload, e + 1, e + 1, hread', he, he, Int.le_refl _⟩
    · rw [hother hqp]
      exact (h.fits q).replaced hread hpayload hread' hauth
  · intro q q' hne hbumps hbumps' reply payload' hq reply' payload'' hq'
    by_cases hqp : q = p
    · subst hqp
      rw [hself] at hq
      cases hq
      exact (hbefore q' (Ne.symm hne) hbumps' reply' payload'' hq' hbumps).symm
    · by_cases hqp' : q' = p
      · subst hqp'
        rw [hself] at hq'
        cases hq'
        exact hbefore q hqp hbumps reply payload' hq hbumps'
      · rw [hother hqp] at hq
        rw [hother hqp'] at hq'
        exact h.epochs q q' hne hbumps hbumps' reply payload' hq reply' payload'' hq'
  · rw [List.foldl_append, List.foldl_cons, List.foldl_nil]
    obtain ⟨payload', hserial, hpay⟩ := h.replaces hphase hfresh hread hpayload
    have hfile : (s.step console requests p).files.desired = some (.obj payload) := by
      rw [hstep]
    rcases hpay with rfl | ⟨hbut, q, profile, hstores, hq, hqp⟩
    · exact .inl (hfile.trans hserial.symm)
    · refine .inr ⟨payload, payload', hfile, hserial, hbut, q, profile, hstores, ?_⟩
      unfold ConsoleRun.Accepted
      rw [hother hqp]
      exact hq
  · have hshared : (s.step console requests p).shared = s.shared.rename p := by
      rw [hstep]
      unfold ConsoleRun.shared SharedTemp.rename ConsoleRun.goto
      rw [Function.comp_update]
      rfl
    rw [hshared]
    exact (h.owned.free_rename (pending_of_phase hphase)).owned

/-- **The step lemma.** -/
theorem ConsoleRun.Sound.step (h : s.Sound console requests first order)
    (hfresh : s.Fresh console requests p) (hok : ¬ (s.step console requests p).Bad) :
    ∃ order', (s.step console requests p).Sound console requests first order' := by
  cases hphase : s.phase p with
  | enter => exact ⟨order, h.step_enter hphase hok⟩
  | read useAuth => exact ⟨order, h.step_read hphase hok⟩
  | write useAuth prev payload => exact ⟨order, h.step_write hphase hok⟩
  | replace useAuth prev payload => exact ⟨order ++ [p], (h.step_replace hphase hfresh).1⟩
  | accepted reply payload =>
    have hstep : s.step console requests p = s := by
      unfold ConsoleRun.step
      rw [hphase]
    rw [hstep]
    exact ⟨order, h⟩
  | failed reply =>
    have hstep : s.step console requests p = s := by
      unfold ConsoleRun.step
      rw [hphase]
    rw [hstep]
    exact ⟨order, h⟩

/-! ## Runs -/

/-- What a step is to the `.tmp`: nothing, a write, or a rename that finds it; or the request
does not return `ok`. -/
theorem step_shared (console : VpnConsole) (requests : ι → Request) (s : ConsoleRun ι) (p : ι) :
    (∃ reply, (s.step console requests p).phase p = .failed reply)
      ∨ (s.step console requests p).shared = s.shared
      ∨ (∃ c, s.shared.pending p = none ∧ (s.step console requests p).shared = s.shared.write p c)
      ∨ (s.shared.temp ≠ none ∧ (s.step console requests p).shared = s.shared.rename p) := by
  unfold ConsoleRun.step
  cases hphase : s.phase p with
  | enter =>
    simp only
    split
    next => exact .inl ⟨_, goto_phase_self⟩
    next =>
      refine .inr (.inl ?_)
      show (s.goto p _).shared = s.shared
      exact shared_goto (by rw [hphase]; rfl)
  | read useAuth =>
    simp only
    split
    next => exact .inl ⟨_, goto_phase_self⟩
    next =>
      split
      next => exact .inl ⟨_, goto_phase_self⟩
      next => exact .inr (.inl (shared_goto (by rw [hphase]; rfl)))
  | write useAuth prev payload =>
    refine .inr (.inr (.inl ⟨.obj payload, pending_of_phase hphase, ?_⟩))
    unfold ConsoleRun.shared SharedTemp.write ConsoleRun.goto
    rw [Function.comp_update]
    rfl
  | replace useAuth prev payload =>
    simp only
    split
    next => exact .inl ⟨_, goto_phase_self⟩
    next content htemp =>
      refine .inr (.inr (.inr ⟨?_, ?_⟩))
      · rw [show s.shared.temp = some content from htemp]
        exact Option.some_ne_none content
      · unfold ConsoleRun.shared SharedTemp.rename ConsoleRun.goto
        rw [Function.comp_update]
        rfl
  | accepted reply payload => exact .inr (.inl rfl)
  | failed reply => exact .inl ⟨reply, hphase⟩

theorem ConsoleRun.Bad.step (h : s.Bad) (p : ι) : (s.step console requests p).Bad := by
  rcases h with ⟨q, reply, hq⟩ | hshort
  · by_cases hqp : q = p
    · subst hqp
      refine .inl ⟨q, reply, ?_⟩
      unfold ConsoleRun.step
      rw [hq]
      exact hq
    · exact .inl ⟨q, reply, (step_phase_other hqp).trans hq⟩
  · rcases step_shared console requests s p with
      ⟨reply, hfailed⟩ | hsame | ⟨c, hpending, hwrite⟩ | ⟨htemp, hrename⟩
    · exact .inl ⟨p, reply, hfailed⟩
    · exact .inr (hsame ▸ hshort)
    · exact .inr (hwrite ▸ hshort.write hpending)
    · exact .inr (hrename ▸ hshort.rename htemp)

/-- Only a request that replaces the file changes what is in it. -/
theorem step_desired (h : ∀ useAuth prev payload, s.phase p ≠ .replace useAuth prev payload) :
    (s.step console requests p).files.desired = s.files.desired := by
  unfold ConsoleRun.step
  cases hphase : s.phase p with
  | enter =>
    simp only
    split
    next => rfl
    next => rfl
  | read useAuth =>
    simp only
    split
    next => rfl
    next =>
      split
      next => rfl
      next => rfl
  | write useAuth prev payload => rfl
  | replace useAuth prev payload => exact absurd hphase (h useAuth prev payload)
  | accepted reply payload => rfl
  | failed reply => rfl

/-- `desired.json` says to connect: `desired.get("connect")`. -/
def VpnFiles.connect (files : VpnFiles) : Option Json := files.readDesired.map (·.get "connect")

/-- The step leaves the connection alone, if it is one of `set_auto_reconnect`. -/
def ConsoleRun.Leaves (console : VpnConsole) (requests : ι → Request) (s : ConsoleRun ι) (p : ι) :
    Prop :=
  (requests p).command.bumps = false →
    (s.step console requests p).files.connect = s.files.connect

theorem ConsoleRun.Sound.leaves (h : s.Sound console requests first order)
    (hfresh : s.Fresh console requests p) : s.Leaves console requests p := by
  intro hkeeps
  by_cases hreplace : ∃ useAuth prev payload, s.phase p = .replace useAuth prev payload
  · obtain ⟨useAuth, prev, payload, hphase⟩ := hreplace
    obtain ⟨-, current, hread, hpayload, hdesired⟩ := h.step_replace hphase hfresh
    obtain ⟨on, hon⟩ := @payload_keeps console.text _ hkeeps
    rw [hon] at hpayload
    cases hpayload
    have hread' : (s.step console requests p).files.readDesired
        = some (withAutoReconnect on (requests p).now current) := by
      unfold VpnFiles.readDesired
      rw [hdesired]
    unfold VpnFiles.connect
    rw [hread', hread, Option.map_some, Option.map_some,
      (@withAutoReconnect_frame console.text on _ current).1]
  · unfold VpnFiles.connect
    rw [readDesired_congr (step_desired fun useAuth prev payload hphase =>
      hreplace ⟨useAuth, prev, payload, hphase⟩)]

end Runs

/-- **No command is lost where the epoch is the one that was read.** For every run of any number
of requests, all of which return `ok`: if each replaces `desired.json` while its epoch is still the
one the request read, and no connect that found no credentials is behind one that stored some, the
file is in the end what the requests make of it one after another, in some order; no two commands
have produced the same epoch; and no step of a `set_auto_reconnect` changes the connection. -/
theorem commands_serial {ι : Type} [DecidableEq ι] (console : VpnConsole) (requests : ι → Request)
    (s : ConsoleRun ι) (hs : ∀ p, s.phase p = .enter) (steps : List ι)
    (hfresh : Along (ConsoleRun.step console requests) (ConsoleRun.Fresh console requests) s steps)
    (hok : ∀ p, (steps.foldl (ConsoleRun.step console requests) s).Accepted p) :
    (steps.foldl (ConsoleRun.step console requests) s).Serial console requests s.files
      ∧ Along (ConsoleRun.step console requests) (ConsoleRun.Leaves console requests) s steps := by
  have hgood : Along (ConsoleRun.step console requests)
      (fun s p => ¬ (s.step console requests p).Bad) s steps := by
    refine along_of_not_bad (fun (s : ConsoleRun ι) p (h : s.Bad) => h.step p) (fun _ _ => not_not.mp) ?_
    rintro (⟨p, reply, hfailed⟩ | hshort)
    · obtain ⟨reply', payload, hp⟩ := hok p
      rw [hfailed] at hp
      cases hp
    · refine hshort.not_free fun p => ?_
      obtain ⟨reply', payload, hp⟩ := hok p
      exact pending_of_phase hp
  have hstart : ∃ order, s.Sound console requests s.files order := by
    have hnone : ∀ p, ¬ s.Accepted p := fun p => not_accepted (hs p) fun _ _ => by simp
    refine ⟨[], List.nodup_nil, fun p => ?_, fun p hp => absurd (hs p) hp, fun profile => ?_,
      fun profile => ?_, fun p => ?_, fun p q _ _ _ reply payload hp => ?_, .inl rfl,
      SharedTemp.Free.owned fun p => pending_of_phase (hs p)⟩
    · exact ⟨fun hp => absurd hp List.not_mem_nil, fun hp => absurd hp (hnone p)⟩
    · exact ⟨.inl, fun hthere => hthere.resolve_right fun ⟨p, hp, _⟩ => hp (hs p)⟩
    · exact ⟨.inl, fun hthere => hthere.resolve_right fun ⟨p, hp, _⟩ => List.not_mem_nil hp⟩
    · rw [hs p]
      trivial
    · exact absurd ⟨reply, payload, hp⟩ (hnone p)
  have hstep : ∀ (s' : ConsoleRun ι) (p : ι),
      (∃ order, s'.Sound console requests s.files order) →
      s'.Fresh console requests p ∧ ¬ (s'.step console requests p).Bad →
      ∃ order, (s'.step console requests p).Sound console requests s.files order :=
    fun _ _ ⟨_, h⟩ hp => h.step hp.1 hp.2
  refine ⟨?_, (hfresh.and hgood).imp hstart hstep fun _ _ ⟨_, h⟩ hp => h.leaves hp.1⟩
  obtain ⟨order, h⟩ := (hfresh.and hgood).inv hstart hstep
  refine ⟨⟨order, h.nodup, fun p => (h.mem p).mpr (hok p), ?_⟩, h.epochs⟩
  rcases h.tracks with hsame | ⟨o, o', -, -, -, q, profile, -, hq⟩
  · exact hsame
  · exact absurd (hok q) hq

/-- A console with one profile, and texts that are no numbers. -/
def plantConsole : VpnConsole where
  profiles := { isFile := fun name => name = "plant" }
  text := { tables := { decimal := fun _ => none, digit := fun _ => false }, truncate := fun _ => none }

/-- `disconnect`, and `set_auto_reconnect` at the same time. -/
def hangUp (p : Bool) : Request :=
  if p then { command := .disconnect, now := "t1" } else { command := .setAutoReconnect true, now := "t2" }

/-- A connection to `plant` in epoch 5. -/
def connectedRun : ConsoleRun Bool where
  files := {
    desired := some (.obj [("connect", .bool true), ("profile", .str "plant"), ("epoch", .int 5)])
    auth := fun _ => none }
  temp := none

/-- `set_auto_reconnect` reads before `disconnect` replaces the file, and replaces it after. -/
def hangUpSteps : List Bool := [false, false, true, true, true, true, false, false]

/-- **A command may be lost.** Both return `ok`, and the file says to connect in epoch 5: one
after another, in either order, it would say not to. -/
theorem disconnect_lost :
    (∀ p, (hangUpSteps.foldl (ConsoleRun.step plantConsole hangUp) connectedRun).Accepted p)
      ∧ (hangUpSteps.foldl (ConsoleRun.step plantConsole hangUp) connectedRun).files.connect
        = some (.bool true)
      ∧ ¬ (hangUpSteps.foldl (ConsoleRun.step plantConsole hangUp) connectedRun).Serial
        plantConsole hangUp connectedRun.files := by
  refine ⟨fun p => ?_, rfl, fun h => ?_⟩
  · cases p with
    | true => exact ⟨_, _, rfl⟩
    | false => exact ⟨_, _, rfl⟩
  · obtain ⟨order, hnodup, hall, hfile⟩ := h.file
    have hconnect := congrArg (fun desired => ({ desired, auth := fun _ => none } : VpnFiles).connect) hfile
    -- each of the two once, in one of two orders
    have horder : order = [true, false] ∨ order = [false, true] := by
      have htrue := hall true
      have hfalse := hall false
      rcases order with _ | ⟨a, _ | ⟨b, _ | ⟨c, rest⟩⟩⟩
      · cases htrue
      · cases a <;> simp at htrue hfalse
      · cases a <;> cases b <;> simp at htrue hfalse hnodup ⊢
      · cases a <;> cases b <;> cases c <;> simp at hnodup
    rcases horder with rfl | rfl
    · cases hconnect
    · cases hconnect

/-- The two one after the other: the connection is ended. -/
theorem disconnect_kept :
    ((List.replicate 4 true ++ List.replicate 4 false).foldl
        (ConsoleRun.step plantConsole hangUp) connectedRun).Serial plantConsole hangUp
          connectedRun.files
      ∧ ((List.replicate 4 true ++ List.replicate 4 false).foldl
        (ConsoleRun.step plantConsole hangUp) connectedRun).files.connect = some (.bool false) := by
  refine ⟨(commands_serial plantConsole hangUp connectedRun (fun _ => rfl)
    (List.replicate 4 true ++ List.replicate 4 false) ?_ fun p => ?_).1, rfl⟩
  · have hfresh : ∀ {s : ConsoleRun Bool} {p : Bool},
        (∀ useAuth prev payload, s.phase p ≠ .replace useAuth prev payload) →
        s.Fresh plantConsole hangUp p := fun h =>
      ⟨fun useAuth prev payload hphase => absurd hphase (h useAuth prev payload),
        fun prev payload hphase => absurd hphase (h false prev payload)⟩
    refine ⟨hfresh ?_, hfresh ?_, hfresh ?_, ⟨?_, ?_⟩, hfresh ?_, hfresh ?_, hfresh ?_, ⟨?_, ?_⟩, trivial⟩
    · nofun
    · nofun
    · nofun
    · intro _ _ _ hphase _ hread
      cases hphase
      cases hread
      rfl
    · intro _ _ _ _ _ _ _ _ hcommand
      cases hcommand
    · nofun
    · nofun
    · nofun
    · intro _ _ _ hphase _ hread
      cases hphase
      cases hread
      rfl
    · intro _ _ _ _ _ _ _ _ hcommand
      cases hcommand
  · cases p with
    | true => exact ⟨_, _, rfl⟩
    | false => exact ⟨_, _, rfl⟩

end EdgeSensor.Vpn
