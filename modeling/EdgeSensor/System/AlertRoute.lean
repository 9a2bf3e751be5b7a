import EdgeSensor.Agent.TailerRun
import EdgeSensor.Py.JsonFile
import EdgeSensor.Py.JsonLines
import EdgeSensor.Sensor.PoisonLines
import EdgeSensor.Sensor.SnortTimestamp

/-!
# An alert on its way to the agent

Snort and Suricata write their alerts to files of their own. A source of the sensor makes an event
of each and appends it to a file of events, which a tailer of the agent reads. That is three
processes and two files, and each of the two readers keeps an offset.

`alerts_arrive` says what comes out at the other end, however the three take turns, wherever a
write has got to, and whenever sensor and agent start again: an event for each of the first
alerts, in the order of the alerts, each once. And where no line stops the source, one call of
each reader brings the rest.

Mirroring notes:
- What an engine writes, and what the source does, arrives in the file piece by piece. The source
  writes all of a poll before it polls again.
- A stop of the sensor falls between two polls.
- `encode` is a line of the event file: the UTF-8 of what `json.dumps` makes of an object. The
  agent reads it with `json.loads`; what it makes of the object is `json`.
-/

namespace EdgeSensor.System

open EdgeSensor.Agent EdgeSensor.Lib EdgeSensor.Py EdgeSensor.Sensor

/-- The two engines. -/
inductive AlertEngine where
  | suricata
  | snort
deriving DecidableEq

namespace AlertEngine

variable (text : EngineText) (config : EngineConfig)

/-- The mapper of the engine's source. -/
def map : AlertEngine → EngineMap
  | .suricata => SuricataEveMapper.map text config
  | .snort => SnortAlertMapper.map text config

/-- The records the mapper makes an event of. -/
def isAlert : AlertEngine → Value → Bool
  | .suricata => SuricataEveMapper.isAlert text
  | .snort => SnortAlertMapper.isAlert

/-- The records that stop the source. -/
def bad : AlertEngine → Value → Bool
  | .suricata => SuricataEveMapper.bad text
  | .snort => SnortAlertMapper.bad text

theorem maps (engine : AlertEngine) :
    Maps text (engine.map text config) (engine.isAlert text) (engine.bad text) := by
  cases engine with
  | suricata => exact SuricataEveMapper.maps text config
  | snort => exact SnortAlertMapper.maps text config

end AlertEngine

/-- Who takes part, and how they write and read. -/
structure AlertParties where
  engine : AlertEngine
  text : EngineText
  config : EngineConfig
  encode : Value → Bytes
  reader : JsonLoads
  json : Value → Json

/-- The two files with their readers. -/
structure AlertRoute where
  /-- The file of the engine. -/
  alerts : Option Bytes := none
  source : EngineSource := {}
  /-- What of a poll's events is still to be written. -/
  unwritten : Bytes := []
  /-- The file of events, and the agent. -/
  agent : TailWorld := {}

inductive RouteStep where
  /-- The engine writes. -/
  | alert (chunk : Bytes)
  /-- The source polls. -/
  | poll (clock : Nat → EngineClock)
  /-- Some bytes of what the source writes arrive. -/
  | write (n : Nat)
  /-- The agent calls `pending_events`. -/
  | read
  | restartSensor
  | restartAgent

namespace AlertRoute

variable (p : AlertParties)

/-- What the engine has written. -/
def log (w : AlertRoute) : Bytes := w.alerts.getD []

/-- The bytes of some events. -/
def lines (objects : List Value) : Bytes := writeRecords LF (objects.map p.encode)

/-- A poll, and the events it writes. -/
def poll (w : AlertRoute) (clock : Nat → EngineClock) : AlertRoute :=
  if w.unwritten = [] then
    let source := (w.source.pollOnce p.text (p.engine.map p.text p.config) clock w.alerts).2
    { w with source := source, unwritten := lines p (source.out.drop w.source.out.length) }
  else w

def restartSensor (w : AlertRoute) : AlertRoute :=
  if w.unwritten = [] then { w with source := .init w.source.offsetFile w.source.out } else w

def step (w : AlertRoute) : RouteStep → AlertRoute
  | .alert chunk => { w with alerts := some (w.log ++ chunk) }
  | .poll clock => w.poll p clock
  | .write n =>
    { w with
      unwritten := w.unwritten.drop n
      agent := w.agent.step p.reader (.append (w.unwritten.take n)) }
  | .read => { w with agent := w.agent.step p.reader .poll }
  | .restartSensor => w.restartSensor
  | .restartAgent => { w with agent := w.agent.step p.reader .restart }

def run (steps : List RouteStep) : AlertRoute := steps.foldl (step p) {}

/-- The alerts on the finished lines. -/
def alertsIn (log : Bytes) : List Value :=
  (records LF log).filterMap (lineAlert p.text (p.engine.isAlert p.text))

/-- The agent has been given an event for each of these alerts, each once. -/
def Told (w : AlertRoute) (alerts : List Value) : Prop :=
  ∃ objects, List.Forall₂ (EventFor (p.engine.map p.text p.config)) alerts objects
    ∧ w.agent.returned = objects.map p.json

/-- Everything there is to write is written. -/
def writeAll (w : AlertRoute) : AlertRoute := w.step p (.write w.unwritten.length)

/-- One poll of the source and one call of the agent, with what is written arriving. -/
def settle (w : AlertRoute) (clock : Nat → EngineClock) : AlertRoute :=
  (((w.writeAll p).step p (.poll clock)).writeAll p).step p .read

/-- The agent reads the line of this object as the object. -/
structure Transcribed (x : Value) : Prop where
  line : LF ∉ p.encode x ∧ CR ∉ p.encode x
  harmless : lineError p.reader (p.encode x) = none
  reads : lineEvent p.reader.toJsonText (p.encode x) = some (p.json x)

/-- What every step preserves. Each reader stands at the end of a line, and what it has read is
behind it. -/
structure Inv (w : AlertRoute) : Prop where
  cr : CR ∉ w.log
  at_line : AtLine w.log w.source.offset
  saved : w.source.offsetFile.getD 0 = w.source.offset
  mapped : List.Forall₂ (EventFor (p.engine.map p.text p.config))
    (alertsIn p (w.log.take w.source.offset)) w.source.out
  arrived : w.agent.log ++ w.unwritten = lines p w.source.out
  tail : TailInv p.reader w.agent

variable {p} {w : AlertRoute}

theorem lines_append (a b : List Value) : lines p (a ++ b) = lines p a ++ lines p b := by
  unfold lines writeRecords
  rw [List.map_append, List.flatMap_append]

theorem not_mem_lines {x : UInt8} (hx : x ≠ LF) {objects : List Value}
    (h : ∀ object ∈ objects, x ∉ p.encode object) : x ∉ lines p objects := by
  unfold lines writeRecords
  intro hmem
  obtain ⟨line, hline, hmem⟩ := List.mem_flatMap.mp hmem
  obtain ⟨object, hobject, rfl⟩ := List.mem_map.mp hline
  rcases List.mem_append.mp hmem with hmem | hmem
  · exact h object hobject hmem
  · exact hx (List.mem_singleton.mp hmem)

theorem log_of_some {log : Bytes} (h : w.alerts = some log) : w.log = log := by
  unfold AlertRoute.log
  rw [h]
  rfl

theorem log_poll (w : AlertRoute) (clock : Nat → EngineClock) : (w.poll p clock).log = w.log := by
  unfold poll
  split
  next => rfl
  next => rfl

/-! ## The source -/

/-- A poll adds events and saves the offset, or finds nothing new. -/
theorem pollOnce_adds (text : EngineText) (map : EngineMap) (clock : Nat → EngineClock)
    (data : Bytes) (src : EngineSource) :
    (∃ objects, (src.pollOnce text map clock (some data)).2.out = src.out ++ objects
      ∧ (src.pollOnce text map clock (some data)).2.offsetFile
        = some (src.pollOnce text map clock (some data)).2.offset)
    ∨ (src.pollOnce text map clock (some data)).2.out = src.out
      ∧ (src.pollOnce text map clock (some data)).2.offsetFile = src.offsetFile
      ∧ (src.pollOnce text map clock (some data)).2.offset = startOffset data src.offset := by
  unfold EngineSource.pollOnce
  simp only
  split
  next => exact .inr ⟨rfl, rfl, rfl⟩
  next =>
    rcases mapLines text map clock src.seq (takenLines data src.offset) with ⟨_ | objects, seq⟩
    · exact .inr ⟨rfl, rfl, rfl⟩
    · simp only
      cases hwrite : writeLines src.out objects with
      | error e => exact .inr ⟨rfl, rfl, rfl⟩
      | ok out =>
        unfold writeLines at hwrite
        split at hwrite
        next => exact .inl ⟨objects, (Except.ok.inj hwrite).symm, rfl⟩
        next => cases hwrite

/-- A poll takes no event back. -/
theorem out_pollOnce (text : EngineText) (map : EngineMap) (clock : Nat → EngineClock)
    (file : Option Bytes) (src : EngineSource) :
    src.out <+: (src.pollOnce text map clock file).2.out := by
  cases file with
  | none => exact List.prefix_rfl
  | some data =>
    rcases pollOnce_adds text map clock data src with ⟨objects, hout, -⟩ | ⟨hout, -⟩
    · rw [hout]
      exact List.prefix_append _ _
    · rw [hout]

/-- A source that stands at the end of a line goes on to the end of another: it takes all finished
lines beyond, or none. -/
theorem pollOnce_cases {text : EngineText} {map : EngineMap} {isAlert bad : Value → Bool}
    (hmaps : Maps text map isAlert bad) (clock : Nat → EngineClock) {log : Bytes} (hcr : CR ∉ log)
    {src : EngineSource} (hat : AtLine log src.offset) (hsaved : src.offsetFile.getD 0 = src.offset) :
    AtLine log (src.pollOnce text map clock (some log)).2.offset
      ∧ (src.pollOnce text map clock (some log)).2.offsetFile.getD 0
        = (src.pollOnce text map clock (some log)).2.offset
      ∧ (∃ taken objects, (src.pollOnce text map clock (some log)).2.out = src.out ++ objects
        ∧ records LF (log.take (src.pollOnce text map clock (some log)).2.offset)
          = records LF (log.take src.offset) ++ taken
        ∧ List.Forall₂ (EventFor map) (taken.filterMap (lineAlert text isAlert)) objects)
      ∧ ((∀ line ∈ records LF log, lineBad text bad line = false) →
        records LF (log.take (src.pollOnce text map clock (some log)).2.offset) = records LF log) := by
  obtain ⟨hat', hread, hall⟩ := readLog hcr hat
  have hfile : (src.pollOnce text map clock (some log)).2.offsetFile.getD 0
      = (src.pollOnce text map clock (some log)).2.offset := by
    rcases pollOnce_adds text map clock log src with ⟨-, -, hfile⟩ | ⟨-, hfile, hoffset⟩
    · rw [hfile]
      rfl
    · rw [hfile, hoffset, hat.startOffset_eq, hsaved]
  by_cases hgood : ∀ line ∈ takenLines log src.offset, lineBad text bad line = false
  · obtain ⟨-, hoffset, objects, hout, hobjects⟩ := EngineSource.pollOnce_ok hmaps clock hgood
    rw [hoffset]
    exact ⟨hat', hoffset ▸ hfile, ⟨_, objects, hout, hread, hobjects⟩, fun _ => hall⟩
  · obtain ⟨line, hmem, hbad⟩ : ∃ line ∈ takenLines log src.offset, lineBad text bad line = true := by
      simpa only [not_forall, exists_prop, Bool.not_eq_false] using hgood
    obtain ⟨-, hoffset, -, hout⟩ := EngineSource.pollOnce_error hmaps clock hmem hbad
    rw [hat.startOffset_eq] at hoffset
    rw [hoffset]
    refine ⟨hat, hoffset ▸ hfile, ⟨[], [], ?_, (List.append_nil _).symm, .nil⟩, fun hlines => ?_⟩
    · rw [hout, List.append_nil]
    · -- the line is a finished one
      have hline : line ∈ records LF log := by
        rw [← hall, hread]
        exact List.mem_append_right _ hmem
      rw [hlines line hline] at hbad
      cases hbad

/-! ## The steps -/

theorem alertsIn_mono {log log' : Bytes} (hboundary : Boundary LF log) (h : log <+: log') :
    alertsIn p log <+: alertsIn p log' := by
  obtain ⟨rest, rfl⟩ := h
  unfold alertsIn
  rw [records_append_of_boundary hboundary, List.filterMap_append]
  exact List.prefix_append _ _

theorem out_step (w : AlertRoute) (s : RouteStep) : w.source.out <+: (w.step p s).source.out := by
  cases s with
  | poll clock =>
    show w.source.out <+: (w.poll p clock).source.out
    unfold poll
    split
    next => exact out_pollOnce ..
    next => exact List.prefix_rfl
  | restartSensor =>
    show w.source.out <+: w.restartSensor.source.out
    unfold restartSensor
    split
    next => exact List.prefix_rfl
    next => exact List.prefix_rfl
  | alert chunk => exact List.prefix_rfl
  | write n => exact List.prefix_rfl
  | read => exact List.prefix_rfl
  | restartAgent => exact List.prefix_rfl

/-- A step of the agent's side. -/
theorem Inv.agent (h : w.Inv p) (unwritten : Bytes) (s : TailStep)
    (harrived : w.unwritten = s.written ++ unwritten)
    (hreads : ∀ x ∈ w.source.out, Transcribed p x) :
    Inv p { w with unwritten := unwritten, agent := w.agent.step p.reader s } := by
  have hlog := TailWorld.log_step p.reader w.agent s
  refine ⟨h.cr, h.at_line, h.saved, h.mapped, ?_, h.tail.step s fun chunk heq hmem => ?_⟩
  · show (w.agent.step p.reader s).log ++ unwritten = _
    rw [hlog, List.append_assoc, ← harrived]
    exact h.arrived
  · have hcr : CR ∉ lines p w.source.out :=
      not_mem_lines (by decide) fun object hobject => (hreads object hobject).line.2
    rw [← h.arrived, harrived, heq] at hcr
    exact hcr (List.mem_append_right _ (List.mem_append_left _ hmem))

theorem Inv.alert (h : w.Inv p) {chunk : Bytes} (hcr : CR ∉ chunk) :
    (w.step p (.alert chunk)).Inv p := by
  obtain ⟨hat, htake⟩ := h.at_line.append chunk
  refine ⟨fun hmem => ?_, hat, h.saved, ?_, h.arrived, h.tail⟩
  · rcases List.mem_append.mp hmem with hmem | hmem
    · exact h.cr hmem
    · exact hcr hmem
  · show List.Forall₂ _ (alertsIn p ((w.log ++ chunk).take w.source.offset)) _
    rw [htake]
    exact h.mapped

theorem Inv.poll (h : w.Inv p) (clock : Nat → EngineClock) : (w.poll p clock).Inv p := by
  unfold AlertRoute.poll
  split
  next hwritten =>
    cases halerts : w.alerts with
    | none =>
      have hnothing : lines p (w.source.out.drop w.source.out.length) = w.unwritten := by
        rw [List.drop_length, hwritten]
        rfl
      show Inv p { w with
        alerts := none, unwritten := lines p (w.source.out.drop w.source.out.length) }
      rw [hnothing, ← halerts]
      exact h
    | some log =>
      have hlog := log_of_some halerts
      obtain ⟨hat, hsaved, ⟨taken, objects, hout, hread, hobjects⟩, -⟩ :=
        pollOnce_cases (p.engine.maps p.text p.config) clock (hlog ▸ h.cr) (hlog ▸ h.at_line) h.saved
      have hmapped := h.mapped
      rw [hlog] at hmapped
      have harrived : w.agent.log = lines p w.source.out := by
        rw [← h.arrived, hwritten, List.append_nil]
      refine ⟨hlog ▸ h.cr, hat, hsaved, ?_, ?_, h.tail⟩
      · show List.Forall₂ _ (alertsIn p (log.take _)) _
        unfold alertsIn at hmapped ⊢
        rw [hread, List.filterMap_append, hout]
        exact List.rel_append hmapped hobjects
      · simp only [hout, List.drop_left, lines_append, harrived]
  next => exact h

/-- A new source stands where the old one had saved that it stood. -/
theorem Inv.restartSensor (h : w.Inv p) : w.restartSensor.Inv p := by
  unfold AlertRoute.restartSensor
  split
  next =>
    refine ⟨h.cr, ?_, rfl, ?_, h.arrived, h.tail⟩
    · show AtLine w.log (w.source.offsetFile.getD 0)
      rw [h.saved]
      exact h.at_line
    · show List.Forall₂ _ (alertsIn p (w.log.take (w.source.offsetFile.getD 0))) w.source.out
      rw [h.saved]
      exact h.mapped
  next => exact h

/-- The step lemma. -/
theorem Inv.step (h : w.Inv p) (s : RouteStep) (hcr : ∀ chunk, s = .alert chunk → CR ∉ chunk)
    (hreads : ∀ x ∈ w.source.out, Transcribed p x) : (w.step p s).Inv p := by
  cases s with
  | alert chunk => exact h.alert (hcr chunk rfl)
  | poll clock => exact h.poll clock
  | write n => exact h.agent _ _ (List.take_append_drop n w.unwritten).symm hreads
  | read => exact h.agent w.unwritten .poll rfl hreads
  | restartSensor => exact h.restartSensor
  | restartAgent => exact h.agent w.unwritten .restart rfl hreads

theorem inv_run {steps : List RouteStep} (hcr : ∀ chunk, .alert chunk ∈ steps → CR ∉ chunk)
    (hreads : ∀ x ∈ (run p steps).source.out, Transcribed p x) : (run p steps).Inv p := by
  induction steps using List.reverseRecOn with
  | nil =>
    exact ⟨List.not_mem_nil, .zero _, rfl, .nil, rfl,
      @tailInv_run p.reader [] fun _ h => absurd h List.not_mem_nil⟩
  | append_singleton steps s ih =>
    unfold run at hreads ⊢
    rw [List.foldl_concat] at hreads ⊢
    have hbefore : ∀ x ∈ (run p steps).source.out, Transcribed p x :=
      fun x hx => hreads x ((out_step (run p steps) s).subset hx)
    have h := ih (fun chunk hmem => hcr chunk (List.mem_append_left _ hmem)) hbefore
    exact h.step s (fun chunk heq => hcr chunk (heq ▸ List.mem_append_right _ List.mem_cons_self))
      hbefore

/-! ## What the agent has been told -/

/-- What the agent makes of the lines of some events. -/
theorem filterMap_lineEvent {objects : List Value} (h : ∀ x ∈ objects, Transcribed p x) :
    (objects.map p.encode).filterMap (lineEvent p.reader.toJsonText) = objects.map p.json := by
  induction objects with
  | nil => rfl
  | cons x objects ih =>
    rw [List.map_cons, List.filterMap_cons, (h x List.mem_cons_self).reads, List.map_cons,
      ih fun y hy => h y (List.mem_cons_of_mem _ hy)]

theorem records_lines {objects : List Value} (h : ∀ x ∈ objects, Transcribed p x) :
    records LF (lines p objects) = objects.map p.encode := by
  refine records_writeRecords fun line hline => ?_
  obtain ⟨x, hx, rfl⟩ := List.mem_map.mp hline
  exact (h x hx).line.1

/-- At any time, the agent knows of the first alerts. -/
theorem Inv.told (h : w.Inv p) (hreads : ∀ x ∈ w.source.out, Transcribed p x) :
    ∃ alerts, alerts <+: alertsIn p w.log ∧ w.Told p alerts := by
  -- what the agent has read is the lines of the first events
  have hread : records LF (w.agent.log.take w.agent.tailer.offset) <+: w.source.out.map p.encode := by
    rw [← records_lines hreads, ← h.arrived, ← List.take_append_drop w.agent.tailer.offset w.agent.log,
      List.append_assoc, List.take_append_drop,
      records_append_of_boundary h.tail.at_line.boundary]
    exact List.prefix_append _ _
  obtain ⟨n, hn⟩ : ∃ n, records LF (w.agent.log.take w.agent.tailer.offset)
      = (w.source.out.take n).map p.encode :=
    ⟨_, (List.prefix_iff_eq_take.mp hread).trans List.map_take.symm⟩
  refine ⟨(alertsIn p (w.log.take w.source.offset)).take n, ?_, w.source.out.take n,
    List.forall₂_take n h.mapped, ?_⟩
  · have hbehind : w.log.take w.source.offset <+: w.log := List.take_prefix _ _
    exact List.IsPrefix.trans ( List.take_prefix _ _) (alertsIn_mono h.at_line.boundary hbehind)
  · rw [h.tail.returned, hn]
    exact filterMap_lineEvent fun x hx => hreads x (List.mem_of_mem_take hx)

/-- A poll that meets no bad line goes through all the lines there are. -/
theorem Inv.poll_all (h : w.Inv p) (hwritten : w.unwritten = [])
    (hgood : ∀ line ∈ records LF w.log, lineBad p.text (p.engine.bad p.text) line = false)
    (clock : Nat → EngineClock) :
    alertsIn p (w.log.take (w.poll p clock).source.offset) = alertsIn p w.log := by
  unfold AlertRoute.poll
  rw [if_pos hwritten]
  cases halerts : w.alerts with
  | none =>
    have hlog : w.log = [] := by
      unfold AlertRoute.log
      rw [halerts]
      rfl
    rw [hlog, List.take_nil]
  | some log =>
    have hlog := log_of_some halerts
    rw [hlog] at hgood ⊢
    have hall := (pollOnce_cases (p.engine.maps p.text p.config) clock (hlog ▸ h.cr)
      (hlog ▸ h.at_line) h.saved).2.2.2 hgood
    unfold alertsIn
    rw [← hall]

/-- The agent reads what is there. -/
theorem Inv.read_all (h : w.Inv p) (hwritten : w.unwritten = [])
    (hreads : ∀ x ∈ w.source.out, Transcribed p x) :
    (w.step p .read).agent.returned = w.source.out.map p.json := by
  have hlog : w.agent.log = lines p w.source.out := by
    rw [← h.arrived, hwritten, List.append_nil]
  have hharmless : ∀ line ∈ records LF w.agent.log, lineError p.reader line = none := by
    intro line hline
    rw [hlog, records_lines hreads] at hline
    obtain ⟨x, hx, rfl⟩ := List.mem_map.mp hline
    exact (hreads x hx).harmless
  obtain ⟨events, hcall, hevents⟩ := h.tail.deliversRest_iff.mpr hharmless
  have hreturned : (w.agent.step p.reader .poll).returned = w.agent.returned ++ events := by
    unfold TailWorld.step
    rcases hpair : w.agent.tailer.pendingEvents p.reader w.agent.file with ⟨result, t⟩
    rw [hpair] at hcall
    simp only at hcall
    subst hcall
    rfl
  show (w.agent.step p.reader .poll).returned = _
  rw [hreturned, hevents, hlog, records_lines hreads, filterMap_lineEvent hreads]

/-- Where no line stops the source, a poll and a call bring the rest. -/
theorem Inv.settled (h : w.Inv p) (clock : Nat → EngineClock)
    (hreads : ∀ x ∈ (w.settle p clock).source.out, Transcribed p x)
    (hgood : ∀ line ∈ records LF w.log, lineBad p.text (p.engine.bad p.text) line = false) :
    (w.settle p clock).Told p (alertsIn p w.log) := by
  have hpolled : ∀ x ∈ ((w.writeAll p).poll p clock).source.out, Transcribed p x := hreads
  have hbefore : ∀ x ∈ w.source.out, Transcribed p x := fun x hx =>
    hpolled x ((out_step (w.writeAll p) (.poll clock)).subset hx)
  have hnone : (w.writeAll p).unwritten = [] := List.drop_length
  have hfirst : (w.writeAll p).Inv p := h.step _ (fun _ heq => by cases heq) hbefore
  have hpoll : ((w.writeAll p).poll p clock).Inv p :=
    hfirst.step (.poll clock) (fun _ heq => by cases heq) hbefore
  have hwrite : (((w.writeAll p).poll p clock).writeAll p).Inv p :=
    hpoll.step _ (fun _ heq => by cases heq) hpolled
  have hmapped := hpoll.mapped
  rw [log_poll, hfirst.poll_all hnone hgood clock] at hmapped
  exact ⟨_, hmapped, hwrite.read_all List.drop_length hpolled⟩

end AlertRoute

/-! An alert without fields, from Snort to the agent. -/

theorem numeral_noFloats (_ : PyFloat) (h : False) :
    JsonCodec.matchNumber [] = some ([], true, []) := h.elim

theorem read_noFloats (x : PyFloat) (h : False) : PyFloat.nan = x := h.elim

/-- There are no floats in it. -/
def noFloats : JsonCodec.FloatText where
  IsFloat _ := False
  repr _ := []
  read _ := .nan
  numeral := numeral_noFloats
  read_repr := read_noFloats

mutual

def jsonOf : Value → Json
  | .null => .null
  | .bool b => .bool b
  | .int n => .int n
  | .float _ => .float ""
  | .str s => .str (asString s)
  | .arr xs => .arr (jsonOfList xs)
  | .obj fields => .obj (jsonOfFields fields)

def jsonOfList : List Value → List Json
  | [] => []
  | x :: xs => jsonOf x :: jsonOfList xs

def jsonOfFields : List (PyStr × Value) → List (String × Json)
  | [] => []
  | (k, x) :: fields => (asString k, jsonOf x) :: jsonOfFields fields

end

def snortLab : AlertParties where
  engine := .snort
  text := plainText
  config := lab
  encode x := (JsonCodec.dumps noFloats x).map UInt8.ofNat
  reader := {
    decode := decodeAsciiReplace
    loads s := (JsonCodec.loads noFloats (lit s)).map jsonOf
    repr _ := ""
    raises _ := none }
  json := jsonOf

/-- The event of the alert. -/
def plainEvent : Value :=
  (SnortAlertMapper.event plainText lab noon (.obj []) 1 "medium" none (.str (lit noon.now))).toDict

/-- The alert is written in two pieces, and so is the event; both readers start again meanwhile. -/
def snortRun : List RouteStep :=
  [.alert [0x7b], .poll fun _ => noon, .restartSensor, .alert [0x7d, LF], .poll fun _ => noon,
    .write 40, .read, .restartAgent]

set_option maxRecDepth 20000 in
theorem out_snortRun :
    ((AlertRoute.run snortLab snortRun).settle snortLab fun _ => noon).source.out = [plainEvent] := by
  rfl

theorem plainEvent_wellFormed : JsonCodec.WellFormed noFloats plainEvent :=
  ⟨by decide +kernel, trivial, trivial, trivial, trivial, trivial, trivial, trivial, trivial, trivial,
    trivial, ⟨by decide +kernel, trivial, trivial, trivial, trivial, trivial, trivial, trivial, trivial,
      trivial, trivial, trivial, ⟨List.nodup_nil, trivial⟩, trivial⟩, trivial⟩

theorem lineEvent_eq {text : JsonText} {line : Bytes} {s : String} (hs : strip (text.decode line) = s)
    (hne : s ≠ "") : lineEvent text line = text.loads s := by
  unfold lineEvent
  rw [hs]
  exact if_neg hne

theorem lineError_eq_none {text : JsonLoads} (h : ∀ s, text.raises s = none) (line : Bytes) :
    lineError text line = none := by
  unfold lineError
  simp only [h, ite_self]

theorem head_dumps (fields : List (PyStr × Value)) :
    (JsonCodec.dumps noFloats (.obj fields)).head? = some 123 := by
  cases fields with
  | nil => rfl
  | cons kv fields => rfl

section Ascii

variable {x : Value} (hascii : ∀ c ∈ JsonCodec.dumps noFloats x, c < 128)

include hascii

theorem toNat_byte {c : Nat} (hc : c ∈ JsonCodec.dumps noFloats x) : (UInt8.ofNat c).toNat = c := by
  have hlt := hascii c hc
  rw [UInt8.toNat_ofNat']
  omega

/-- What `json.dumps` writes has no control characters. -/
theorem not_mem_encode (hbody : JsonCodec.IsBody noFloats x) {b : UInt8} (hb : b.toNat < 32) :
    b ∉ snortLab.encode x := by
  intro hmem
  obtain ⟨c, hc, rfl⟩ := List.mem_map.mp hmem
  obtain ⟨fields, rfl⟩ := hbody.exists_fields
  have hreads := JsonCodec.reads_dumps (.obj fields) [] hbody.1 ⟨trivial, trivial⟩
  rw [List.append_nil] at hreads
  have hle : 32 ≤ c := hreads.printable c hc
  rw [toNat_byte hascii hc] at hb
  omega

theorem decode_encode :
    snortLab.reader.decode (snortLab.encode x) = asString (JsonCodec.dumps noFloats x) := by
  show decodeAsciiReplace ((JsonCodec.dumps noFloats x).map UInt8.ofNat) = _
  rw [decodeAsciiReplace, List.map_map]
  refine congrArg String.ofList (List.map_congr_left fun c hc => ?_)
  show (if (UInt8.ofNat c).toNat < 128 then _ else _) = Char.ofNat c
  rw [toNat_byte hascii hc, if_pos (hascii c hc)]

end Ascii

/-- An object begins and ends with a brace. -/
theorem strip_dumps (fields : List (PyStr × Value)) :
    strip (asString (JsonCodec.dumps noFloats (.obj fields)))
      = asString (JsonCodec.dumps noFloats (.obj fields)) := by
  refine strip_eq_self_iff.mpr ⟨?_, ?_⟩
  · rw [asString, String.toList_ofList, List.head?_map, head_dumps]
    intro c hc
    cases hc
    rfl
  · rw [asString, String.toList_ofList, List.getLast?_map, JsonCodec.getLast_dumps]
    intro c hc
    cases hc
    rfl

/-- What `json.dumps` writes is read, where it is ASCII. -/
theorem transcribed_of_ascii {x : Value} (hbody : JsonCodec.IsBody noFloats x)
    (hascii : ∀ c ∈ JsonCodec.dumps noFloats x, c < 128) : AlertRoute.Transcribed snortLab x := by
  have hline : ∀ b : UInt8, b.toNat < 32 → b ∉ snortLab.encode x :=
    fun b hb => not_mem_encode hascii hbody hb
  have hdecode := decode_encode hascii
  have hread : lit (asString (JsonCodec.dumps noFloats x)) = JsonCodec.dumps noFloats x :=
    lit_asString hascii
  obtain ⟨fields, rfl⟩ := hbody.exists_fields
  have hne : asString (JsonCodec.dumps noFloats (.obj fields)) ≠ "" := by
    intro heq
    rw [heq] at hread
    have hhead := head_dumps fields
    rw [← hread, show lit "" = [] from rfl] at hhead
    cases hhead
  have hloads : snortLab.reader.loads (asString (JsonCodec.dumps noFloats (.obj fields)))
      = some (jsonOf (.obj fields)) := by
    show (JsonCodec.loads noFloats (lit (asString _))).map jsonOf = _
    rw [hread, JsonCodec.loads_dumps hbody.1]
    rfl
  exact ⟨⟨hline LF (by decide), hline CR (by decide)⟩, lineError_eq_none (fun _ => rfl) _,
    (lineEvent_eq (by rw [hdecode, strip_dumps]) hne).trans hloads⟩

theorem plainEvent_ascii : (JsonCodec.dumps noFloats plainEvent).all (fun c => c < 128) = true := by
  decide +kernel

end EdgeSensor.System
