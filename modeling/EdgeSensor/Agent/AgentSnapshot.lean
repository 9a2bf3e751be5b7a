import EdgeSensor.Lib.Rewrite
import EdgeSensor.Py.JsonFile

/-!
# The snapshot for the console (`runtime/agent_snapshot.py`)

`write_agent_runtime` reads `agent-runtime.json`, puts the fields it is given into what it has
read, and writes the file in place. The health loop calls it, a registration does, every
confirmed publish of any thread, and the threads of paho when the broker comes or goes; the
console reads the file at any time. Nothing keeps these apart: this is a `Rewrite`.

`runtime_file_chain` says what the console may find: what a chain of calls has set, each of which
began after the one before it had written. Of two calls that overlap at most one is in it.

Mirroring notes:
- `write_text` opens the file, which empties it, and then writes all of the text at once.
- The layout of the text is the parameter `text`.
- The file is there or is not, and can be read and written: `OSError` is left out.
-/

namespace EdgeSensor.Agent

open EdgeSensor.Lib EdgeSensor.Py EdgeSensor.Py.JsonCodec

/-- The arguments of a call, and the time of it. -/
structure RuntimeFields (floats : FloatText) where
  fields : List (PyStr × Value)
  now : PyStr
  wellFormed : WellFormedFields floats fields

variable {floats : FloatText}

/-- What a call sets: what is given and is not `None`, and the time. -/
def RuntimeFields.settings (given : RuntimeFields floats) : Dict PyStr Value :=
  given.fields.filter (fun kv => match kv.2 with
    | .null => false
    | _ => true) ++ [(lit "updated_at", .str given.now)]

/-- `body`, as a call finds it and leaves it. -/
def RuntimeFields.apply (given : RuntimeFields floats) : Value → Value
  | .obj body => .obj (Dict.update body given.settings)
  | x => x

/-- `load_agent_runtime`: the object in the file, or an empty one. -/
def loadAgentRuntime (text : FileText floats) (file : Option PyStr) : Value :=
  match file with
  | none => .obj []
  | some s =>
    match text.loads s with
    | some (.obj body) => .obj body
    | _ => .obj []

theorem loadAgentRuntime_dumps (text : FileText floats) {x : Value} (hx : IsBody floats x) :
    loadAgentRuntime text (some (text.dumps x)) = x := by
  obtain ⟨body, rfl⟩ := hx.exists_fields
  unfold loadAgentRuntime
  simp only [text.loads_dumps _ hx]

theorem loadAgentRuntime_nil (text : FileText floats) : loadAgentRuntime text (some []) = .obj [] := by
  unfold loadAgentRuntime
  simp only [text.loads_nil]

theorem RuntimeFields.wellFormed_settings (given : RuntimeFields floats) :
    ∀ kv ∈ given.settings, WellFormed floats kv.2 := by
  intro kv hkv
  rcases List.mem_append.mp hkv with hgiven | hnow
  · exact wellFormedFields_iff.mp given.wellFormed kv (List.mem_of_mem_filter hgiven)
  · rw [List.mem_singleton.mp hnow]
    trivial

/-- `agent-runtime.json`, and what a call does to it. -/
def runtimeCodec (text : FileText floats) : FileCodec Nat Value (RuntimeFields floats) where
  Valid := IsBody floats
  encode := text.dumps
  read := loadAgentRuntime text
  last := 125
  getLast_encode := text.getLast_dumps
  read_encode _ hx := loadAgentRuntime_dumps text hx
  read_extra x tail hx htail := by
    rw [loadAgentRuntime_nil]
    unfold loadAgentRuntime
    simp only [text.loads_extra x tail hx htail]
  valid_none := isBody_nil
  valid_empty := by
    rw [loadAgentRuntime_nil]
    exact isBody_nil
  apply := RuntimeFields.apply
  valid_apply given x hx := by
    obtain ⟨body, rfl⟩ := hx.exists_fields
    exact hx.update given.wellFormed_settings

/-- `agent-runtime.json`, and the threads of the agent that are writing it. -/
abbrev AgentSnapshot := Rewrite Nat Value

namespace AgentSnapshot

/-- A run, from a file that is missing or was written by the agent. -/
def run (text : FileText floats) (file : Option Value) (steps : List (RewriteStep (RuntimeFields floats))) :
    AgentSnapshot :=
  steps.foldl (Rewrite.step (runtimeCodec text)) { file := file.map text.dumps }

/-- `call` is one of the run. -/
def IsCall (text : FileText floats) (file : Option Value)
    (steps : List (RewriteStep (RuntimeFields floats))) (call : RewriteCall (RuntimeFields floats)) :
    Prop :=
  Rewrite.IsCall (runtimeCodec text) { file := file.map text.dumps } steps call

/-- Calls one after the other set what all of them set. -/
theorem foldl_apply (calls : List (RewriteCall (RuntimeFields floats))) (body : Dict PyStr Value) :
    calls.foldl (fun x call => call.update.apply x) (.obj body) =
      .obj (Dict.update body (calls.flatMap fun call => call.update.settings)) := by
  induction calls generalizing body with
  | nil => rfl
  | cons call calls ih =>
    rw [List.foldl_cons, List.flatMap_cons, Dict.update_append]
    exact ih _

/-- **Of calls that overlap one is lost.** Whatever threads write the snapshot and however they
interleave, what the console reads at any time is the object that was there at the start, or an
empty one, overlaid with the fields of calls of the run each of which began after the one before it
had written. -/
theorem runtime_file_chain (text : FileText floats) (file : Option Value)
    (hfile : ∀ x ∈ file, IsBody floats x) (steps : List (RewriteStep (RuntimeFields floats))) :
    ∃ body, ∃ calls : List (RewriteCall (RuntimeFields floats)),
      (.obj body = file.getD (.obj []) ∨ body = []) ∧
      (∀ call ∈ calls, IsCall text file steps call) ∧
      calls.Pairwise (fun call later => call.stop < later.start) ∧
      loadAgentRuntime text (run text file steps).file =
        .obj (Dict.update body (calls.flatMap fun call => call.update.settings)) := by
  have hstart : loadAgentRuntime text (file.map text.dumps) = file.getD (.obj []) ∧
      IsBody floats (file.getD (.obj [])) ∧
      ∀ s ∈ file.map text.dumps, s = [] ∨ s.getLast? = some 125 := by
    cases file with
    | none => exact ⟨rfl, isBody_nil, fun _ h => by cases h⟩
    | some x =>
      have hx := hfile x rfl
      refine ⟨loadAgentRuntime_dumps text hx, hx, fun s hs => ?_⟩
      rw [← Option.some.inj hs]
      exact .inr (text.getLast_dumps x hx)
  obtain ⟨hread, hbody, hlast⟩ := hstart
  have hshape : Rewrite.Shape (runtimeCodec text) (file.map text.dumps) :=
    ⟨show IsBody floats (loadAgentRuntime text _) by rw [hread]; exact hbody, hlast⟩
  have hinv : Rewrite.Inv (runtimeCodec text) { file := file.map text.dumps } steps :=
    Rewrite.made_of_disjoint hshape (fun _ => rfl) steps
  obtain ⟨base, calls, hbase, hcalls, hpairwise, hmade⟩ := hinv.made
  have hobj : ∃ body, base = .obj body ∧ (.obj body = file.getD (.obj []) ∨ body = []) := by
    rcases hbase with rfl | rfl
    · obtain ⟨body, hx⟩ := hbody.exists_fields
      exact ⟨body, hread.trans hx, .inl hx.symm⟩
    · exact ⟨[], loadAgentRuntime_nil text, .inr rfl⟩
  obtain ⟨body, rfl, hwhich⟩ := hobj
  exact ⟨body, calls, hwhich, fun call hcall => (hcalls call hcall).1, hpairwise,
    hmade.trans (foldl_apply calls body)⟩

/-- Numbers without a fraction. -/
def wholeNumbers : FloatText where
  IsFloat _ := False
  repr _ := []
  read _ := .nan
  numeral _ h := h.elim
  read_repr _ h := h.elim

def connectedFields (connected : Bool) : RuntimeFields wholeNumbers where
  fields := [(lit "mqtt_connected", .bool connected)]
  now := lit "2026-01-01T00:00:00+00:00"
  wellFormed := ⟨trivial, trivial⟩

/-- The health loop writes that the broker is away, while paho's thread says that it is back. -/
def overlap : List (RewriteStep (RuntimeFields wholeNumbers)) :=
  [.load 0 (connectedFields false), .load 1 (connectedFields true), .openFile 1, .write 1,
    .openFile 0, .write 0]

theorem runtime_file_chain_overlap :
    ((loadAgentRuntime (plainText wholeNumbers) (run (plainText wholeNumbers) none overlap).file).get
        "mqtt_connected").truthy = false ∧
      ∃ body, ∃ calls : List (RewriteCall (RuntimeFields wholeNumbers)),
        (.obj body = (none : Option Value).getD (.obj []) ∨ body = []) ∧
        (∀ call ∈ calls, IsCall (plainText wholeNumbers) none overlap call) ∧
        calls.Pairwise (fun call later => call.stop < later.start) ∧
        loadAgentRuntime (plainText wholeNumbers) (run (plainText wholeNumbers) none overlap).file =
          .obj (Dict.update body (calls.flatMap fun call => call.update.settings)) :=
  ⟨by decide +kernel, runtime_file_chain (plainText wholeNumbers) none (fun _ h => nomatch h) overlap⟩

end AgentSnapshot

end EdgeSensor.Agent
