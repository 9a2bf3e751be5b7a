import EdgeSensor.Sensor.TopologyIntegrity
import Mathlib.Data.List.MinMax

/-!
# The evidence for an asset

A touch gives its asset a standing: a type, a level, an operating system and a confidence.
The row of an asset is what its touches give it, merged in their order (`concludes_foldl`),
as long as no other address has its id. The merge reads them in two ways: the level is that of
the first standing of the highest confidence, but the type is that of the last standing that
names one, however weak (`Concludes`).
-/

namespace EdgeSensor.Sensor

open EdgeSensor.Lib EdgeSensor.Py

/-! ## Standings -/

/-- How an asset is classified. -/
structure Standing where
  assetType : String
  purdueLevel : Option String
  osFamily : Option String
  confidence : Rat
  deriving DecidableEq

/-- The standing a touch gives. -/
def Touch.standing (args : Touch) : Standing :=
  ⟨args.assetType, args.purdueLevel, args.osFamily, args.confidence⟩

/-- The standing of an asset. -/
def TopologyAsset.standing (row : TopologyAsset) : Standing :=
  ⟨row.assetType, row.purdueLevel, row.osFamily, row.confidence⟩

/-- A standing the passes give: with a level and a type, or a mere peer. -/
structure Standing.Given (s : Standing) : Prop where
  level : s.purdueLevel = none ∧ s.confidence = 40 / 100
    ∨ ∃ level, s.purdueLevel = some level ∧ level ≠ "" ∧ level ≠ "unknown"
      ∧ 40 / 100 < s.confidence
  family : s.osFamily = none ∨ s.osFamily = some "windows"

/-- The last type the standings name. -/
def lastNamed (ss : List Standing) : Option String :=
  (ss.filter (·.assetType ≠ "unknown")).getLast?.map (·.assetType)

theorem lastNamed_append (ss ss' : List Standing) :
    lastNamed (ss ++ ss') = (lastNamed ss').or (lastNamed ss) := by
  unfold lastNamed
  rw [List.filter_append, List.getLast?_append, Option.map_or]

theorem mem_of_lastNamed {ss : List Standing} {type : String} (h : lastNamed ss = some type) :
    ∃ s ∈ ss, s.assetType = type := by
  obtain ⟨s, hs, rfl⟩ := Option.map_eq_some_iff.mp h
  exact ⟨s, List.mem_of_mem_filter (List.mem_of_getLast? hs), rfl⟩

theorem lastNamed_ne_none {ss : List Standing} {s : Standing} (hs : s ∈ ss)
    (hnamed : s.assetType ≠ "unknown") : lastNamed ss ≠ none := by
  unfold lastNamed
  rw [ne_eq, Option.map_eq_none_iff, List.getLast?_eq_none_iff]
  exact List.ne_nil_of_mem (List.mem_filter.mpr ⟨hs, decide_eq_true hnamed⟩)

/-- If all standings that name a type name the same, it is the last. -/
theorem lastNamed_eq {ss : List Standing} {s : Standing} (hs : s ∈ ss)
    (hnamed : s.assetType ≠ "unknown")
    (hall : ∀ s' ∈ ss, s'.assetType ≠ "unknown" → s'.assetType = s.assetType) :
    lastNamed ss = some s.assetType := by
  obtain ⟨type, htype⟩ := Option.ne_none_iff_exists'.mp (lastNamed_ne_none hs hnamed)
  obtain ⟨last, hlast, rfl⟩ := Option.map_eq_some_iff.mp htype
  obtain ⟨hmem, hother⟩ := List.mem_filter.mp (List.mem_of_getLast? hlast)
  rw [htype, hall last hmem (of_decide_eq_true hother)]

theorem lastNamed_eq_none {ss : List Standing} (h : ∀ s ∈ ss, s.assetType = "unknown") :
    lastNamed ss = none := by
  unfold lastNamed
  rw [Option.map_eq_none_iff, List.getLast?_eq_none_iff, List.filter_eq_nil_iff]
  intro s hs hnamed
  exact of_decide_eq_true hnamed (h s hs)

/-- The first of the strongest is found before anything that is no stronger. -/
theorem argmax_append_of_le {α β : Type} [LinearOrder β] {f : α → β} {l l' : List α} {m : α}
    (hm : l.argmax f = some m) (hle : ∀ a ∈ l', f a ≤ f m) : (l ++ l').argmax f = some m := by
  induction l' using List.reverseRecOn with
  | nil => rw [List.append_nil, hm]
  | append_singleton l' a ih =>
    have hrest := ih fun b hb => hle b (List.mem_append_left _ hb)
    rw [← List.append_assoc, List.argmax_concat, hrest]
    exact if_neg (not_lt.mpr (hle a (List.mem_append_right _ List.mem_cons_self)))

/-- What a row concludes from the standings its asset was given, in order. -/
structure Concludes (ss : List Standing) (s : Standing) : Prop where
  assetType : s.assetType = (lastNamed ss).getD "unknown"
  purdueLevel : s.purdueLevel = (ss.argmax (·.confidence)).bind (·.purdueLevel)
  osFamily : s.osFamily = if ∃ s' ∈ ss, s'.osFamily = some "windows" then some "windows" else none
  confidence : (ss.argmax (·.confidence)).map (·.confidence) = some s.confidence

/-- A first standing is the conclusion. -/
theorem Concludes.single {s : Standing} (hs : s.Given) : Concludes [s] s := by
  refine ⟨?_, rfl, ?_, rfl⟩
  · by_cases hnamed : s.assetType = "unknown"
    · rw [lastNamed_eq_none (by simpa using hnamed), hnamed]
      rfl
    · rw [lastNamed_eq List.mem_cons_self hnamed (by simp)]
      rfl
  · rcases hs.family with hfamily | hfamily
    · rw [hfamily, if_neg (by simp [hfamily])]
    · rw [hfamily, if_pos ⟨s, List.mem_cons_self, hfamily⟩]

/-- The operating system of a merged row. -/
theorem merge_osFamily {args : Touch} {row : TopologyAsset}
    (h : args.osFamily = none ∨ args.osFamily = some "windows") :
    (row.merge args).osFamily
      = if args.osFamily = some "windows" then some "windows" else row.osFamily := by
  unfold TopologyAsset.merge
  rcases h with h | h
  · rw [h]
    rfl
  · rw [h]
    rfl

/-- A further touch is merged into the conclusion. -/
theorem Concludes.merge {ss : List Standing} {row : TopologyAsset} {args : Touch}
    (h : Concludes ss row.standing) (hss : ∀ s ∈ ss, s.Given) (hargs : args.standing.Given) :
    Concludes (ss ++ [args.standing]) (row.merge args).standing := by
  obtain ⟨m, hm, hconfidence⟩ := Option.map_eq_some_iff.mp h.confidence
  have hconfidence : m.confidence = row.confidence := hconfidence
  have hlevel : row.purdueLevel = m.purdueLevel := by
    have hlevel := h.purdueLevel
    rw [hm] at hlevel
    exact hlevel
  have hargmax : (ss ++ [args.standing]).argmax (·.confidence)
      = if m.confidence < args.confidence then some args.standing else some m := by
    rw [List.argmax_concat, hm]
    rfl
  refine ⟨?_, ?_, ?_, ?_⟩
  · -- the type is that of this touch, if it names one
    rw [lastNamed_append]
    show (if args.assetType ≠ "unknown" then args.assetType else row.assetType) = _
    by_cases hnamed : args.assetType ≠ "unknown"
    · rw [if_pos hnamed, lastNamed_eq List.mem_cons_self hnamed (by simp)]
      rfl
    · have hpeer : lastNamed [args.standing] = none :=
        lastNamed_eq_none (by simpa [Touch.standing] using hnamed)
      rw [if_neg hnamed, hpeer]
      exact h.assetType
  · rw [hargmax]
    show (row.merge args).purdueLevel = _
    unfold TopologyAsset.merge
    rcases hargs.level with ⟨hnone, hweak⟩ | ⟨level, hsome, hne, _, hstrong⟩
    · -- a mere peer is no stronger than what there is
      have hpeer : ¬ m.confidence < args.confidence := by
        rw [show args.confidence = 40 / 100 from hweak, not_lt]
        rcases (hss m (List.argmax_mem hm)).level with ⟨_, hfloor⟩ | ⟨_, _, _, _, hfloor⟩
        · exact hfloor.ge
        · exact hfloor.le
      rw [if_neg hpeer, show args.purdueLevel = none from hnone]
      exact hlevel
    · have hunknown : row.purdueLevel ≠ some "unknown" := by
        rw [hlevel]
        intro hunknown
        rcases (hss m (List.argmax_mem hm)).level with ⟨hnone', _⟩ | ⟨_, hsome', _, hother, _⟩
        · cases hnone'.symm.trans hunknown
        · exact hother (Option.some.inj (hsome'.symm.trans hunknown))
      -- a row without a level has only peers behind it
      have hmissing : row.purdueLevel = none → m.confidence < args.confidence := by
        intro hmissing
        rcases (hss m (List.argmax_mem hm)).level with ⟨_, hfloor⟩ | ⟨_, hsome', _⟩
        · rw [hfloor]
          exact hstrong
        · cases (hlevel.symm.trans hmissing).symm.trans hsome'
      have hgate : (level ≠ "" ∧ (row.purdueLevel = none ∨ row.purdueLevel = some "unknown"
          ∨ row.confidence < args.confidence)) ↔ m.confidence < args.confidence := by
        rw [← hconfidence]
        constructor
        · rintro ⟨_, hgate | hgate | hgate⟩
          · exact hmissing hgate
          · exact absurd hgate hunknown
          · exact hgate
        · exact fun hgate => ⟨hne, .inr (.inr hgate)⟩
      rw [show args.purdueLevel = some level from hsome]
      simp only [hgate]
      split
      · exact hsome.symm
      · exact hlevel
  · show (row.merge args).osFamily = _
    rw [merge_osFamily hargs.family]
    have hrow : row.osFamily = _ := h.osFamily
    by_cases hwindows : args.osFamily = some "windows"
    · rw [if_pos hwindows, if_pos ⟨args.standing, List.mem_append_right _ List.mem_cons_self,
        hwindows⟩]
    · rw [if_neg hwindows, hrow]
      refine if_congr ?_ rfl rfl
      constructor
      · rintro ⟨s, hs, hfamily⟩
        exact ⟨s, List.mem_append_left _ hs, hfamily⟩
      · rintro ⟨s, hs, hfamily⟩
        rcases List.mem_append.mp hs with hs | hs
        · exact ⟨s, hs, hfamily⟩
        · rw [List.mem_singleton.mp hs] at hfamily
          exact absurd hfamily hwindows
  · rw [hargmax]
    show _ = some (max row.confidence args.confidence)
    rw [← hconfidence]
    split
    · next hlt => rw [max_eq_right hlt.le]; rfl
    · next hle => rw [max_eq_left (not_lt.mp hle)]; rfl

/-! ## The touches of an address -/

/-- The touch of an address. -/
def TopologyCall.touchOf (ip : String) : TopologyCall → Option Touch
  | .touch args => if args.ip = ip then some args else none
  | .link _ | .egress _ _ => none

/-- The touches of an address, in order. -/
def touchesOf (ip : String) (calls : List TopologyCall) : List Touch :=
  calls.filterMap (·.touchOf ip)

theorem mem_touchesOf {ip : String} {calls : List TopologyCall} {args : Touch} :
    args ∈ touchesOf ip calls ↔ .touch args ∈ calls ∧ args.ip = ip := by
  unfold touchesOf
  rw [List.mem_filterMap]
  constructor
  · rintro ⟨call, hcall, hof⟩
    cases call with
    | touch other =>
      obtain ⟨hip, hother⟩ := Option.ite_none_right_eq_some.mp hof
      cases hother
      exact ⟨hcall, hip⟩
    | link l => cases hof
    | egress src dst => cases hof
  · rintro ⟨hcall, hip⟩
    exact ⟨_, hcall, if_pos hip⟩

/-- The standings the calls give an address, in order. -/
def standings (ip : String) (calls : List TopologyCall) : List Standing :=
  (touchesOf ip calls).map Touch.standing

theorem standings_append (ip : String) (calls calls' : List TopologyCall) :
    standings ip (calls ++ calls') = standings ip calls ++ standings ip calls' := by
  unfold standings touchesOf
  rw [List.filterMap_append, List.map_append]

theorem standings_flatMap {α : Type} (ip : String) (rows : List α) (f : α → List TopologyCall) :
    standings ip (rows.flatMap f) = rows.flatMap fun row => standings ip (f row) := by
  unfold standings touchesOf
  rw [List.filterMap_flatMap, List.map_flatMap]

theorem standings_cons_touch (ip : String) (args : Touch) (calls : List TopologyCall) :
    standings ip (.touch args :: calls)
      = (if args.ip = ip then [args.standing] else []) ++ standings ip calls := by
  have hof : (TopologyCall.touch args).touchOf ip = if args.ip = ip then some args else none := rfl
  unfold standings touchesOf
  by_cases hip : args.ip = ip
  · rw [if_pos hip] at hof
    rw [if_pos hip, List.filterMap_cons_some hof]
    rfl
  · rw [if_neg hip] at hof
    rw [if_neg hip, List.filterMap_cons_none hof]
    rfl

section Row

variable {platform : Platform} {tenantId sensorId : String} {calls : List TopologyCall}
  {b : TopologyBuilder} {ip : String}

/-- No other address of the calls has the id of this one. -/
def OwnId (platform : Platform) (tenantId sensorId : String) (calls : List TopologyCall)
    (ip : String) : Prop :=
  ∀ ip' ∈ touchedIps calls,
    assetIdOf platform tenantId sensorId ip' = assetIdOf platform tenantId sensorId ip → ip' = ip

/-- A touch of the address is merged into its row, any other leaves the row alone. -/
theorem get?_touchAsset (args : Touch) (b : TopologyBuilder) :
    (b.touchAsset platform tenantId sensorId args).assets.get?
        (assetIdOf platform tenantId sensorId ip)
      = if assetIdOf platform tenantId sensorId args.ip = assetIdOf platform tenantId sensorId ip
        then some (args.row platform tenantId sensorId
          (b.assets.get? (assetIdOf platform tenantId sensorId ip)))
        else b.assets.get? (assetIdOf platform tenantId sensorId ip) := by
  unfold TopologyBuilder.touchAsset
  simp only
  rw [Dict.get?_set]
  split
  · next heq => rw [heq]
  · rfl

/-- The row of an address concludes from the standings it was given; without any there is
no row. -/
theorem concludes_foldl (hown : OwnId platform tenantId sensorId calls ip)
    (hgiven : ∀ s ∈ standings ip calls, s.Given) :
    (calls.foldl (TopologyBuilder.perform platform tenantId sensorId) {}).assets.get?
        (assetIdOf platform tenantId sensorId ip) = none ∧ standings ip calls = []
    ∨ ∃ row, (calls.foldl (TopologyBuilder.perform platform tenantId sensorId) {}).assets.get?
        (assetIdOf platform tenantId sensorId ip) = some row
      ∧ Concludes (standings ip calls) row.standing := by
  induction calls using List.reverseRecOn with
  | nil => exact .inl ⟨rfl, rfl⟩
  | append_singleton calls call ih =>
    have hearlier := ih (fun ip' hip' => hown ip' (by
        rw [touchedIps_concat]
        exact List.mem_append_left _ hip'))
      fun s hs => hgiven s (by
        rw [standings_append]
        exact List.mem_append_left _ hs)
    rw [List.foldl_append, standings_append]
    generalize calls.foldl (TopologyBuilder.perform platform tenantId sensorId) {} = b at hearlier
    show (b.perform platform tenantId sensorId call).assets.get? _ = none ∧ _ ∨
      ∃ row, (b.perform platform tenantId sensorId call).assets.get? _ = some row ∧ _
    cases call with
    | link l =>
      rw [show standings ip [.link l] = [] from rfl, List.append_nil]
      exact hearlier
    | egress src dst =>
      rw [show standings ip [.egress src dst] = [] from rfl, List.append_nil]
      exact hearlier
    | touch args =>
      show (b.touchAsset platform tenantId sensorId args).assets.get? _ = none ∧ _ ∨
        ∃ row, (b.touchAsset platform tenantId sensorId args).assets.get? _ = some row ∧ _
      rw [get?_touchAsset, standings_cons_touch]
      by_cases hip : args.ip = ip
      · rw [if_pos hip, if_pos (congrArg _ hip)]
        refine .inr ⟨_, rfl, ?_⟩
        have hstanding : args.standing.Given := by
          refine hgiven args.standing ?_
          rw [standings_append, standings_cons_touch, if_pos hip]
          exact List.mem_append_right _ List.mem_cons_self
        rcases hearlier with ⟨hnone, hnil⟩ | ⟨row, hrow, hconcludes⟩
        · rw [hnone, hnil]
          exact .single hstanding
        · rw [hrow]
          refine hconcludes.merge (fun s hs => hgiven s ?_) hstanding
          rw [standings_append]
          exact List.mem_append_left _ hs
      · -- another address has another id
        have hid : assetIdOf platform tenantId sensorId args.ip
            ≠ assetIdOf platform tenantId sensorId ip := by
          intro heq
          refine hip (hown args.ip ?_ heq)
          exact mem_touchedIps_touch.mpr (.inr rfl)
        rw [if_neg hip, if_neg hid]
        show _ ∧ standings ip calls ++ [] = [] ∨ ∃ row, _ ∧ Concludes (standings ip calls ++ []) _
        rw [List.append_nil]
        exact hearlier

end Row

end EdgeSensor.Sensor
