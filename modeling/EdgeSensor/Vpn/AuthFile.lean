import EdgeSensor.Vpn.CommandRuns
import Mathlib.Data.List.DropRight

/-!
# The credentials that OpenVPN reads (`connect` in `vpn_service.py`, `--auth-user-pass`)

`connect` writes the user name and the password on a line each, and OpenVPN reads the first two
lines of the file. `_CTRL_RE` lets a line feed through, which ends the line early:
`auth_faithful_iff`.

Mirroring notes:
- OpenVPN takes the carriage returns off the end of a line. A reader that does not is here too.
-/

namespace EdgeSensor.Vpn

open EdgeSensor.Lib EdgeSensor.Py

/-- A line as it is taken: without the carriage returns at its end, or with them. -/
def takeLine (chomps : Bool) (line : List Char) : List Char :=
  if chomps then line.rdropWhile (· = '\r') else line

/-- The user name and the password of a file: its first line and its second line. -/
def readAuth (chomps : Bool) (file : String) : String × String :=
  let first := file.toList.takeWhile (· ≠ '\n')
  let second := ((file.toList.dropWhile (· ≠ '\n')).drop 1).takeWhile (· ≠ '\n')
  (String.ofList (takeLine chomps first), String.ofList (takeLine chomps second))

/-- A text that comes back from its line. -/
def OneLine (chomps : Bool) (value : String) : Prop :=
  '\n' ∉ value.toList ∧ (chomps = true → value.toList.getLast? ≠ some '\r')

section Read

variable {chomps : Bool} {value : String} {line rest : List Char}

theorem takeWhile_line (h : '\n' ∉ line) :
    (line ++ '\n' :: rest).takeWhile (· ≠ '\n') = line := by
  rw [List.takeWhile_append_of_pos]
  · simp
  · intro c hc
    exact decide_eq_true fun heq => h (heq ▸ hc)

theorem dropWhile_line (h : '\n' ∉ line) :
    (line ++ '\n' :: rest).dropWhile (· ≠ '\n') = '\n' :: rest := by
  rw [List.dropWhile_append_of_pos]
  · simp
  · intro c hc
    exact decide_eq_true fun heq => h (heq ▸ hc)

/-- What is taken of a line is the start of it. -/
theorem takeLine_initial (chomps : Bool) (line : List Char) : takeLine chomps line <+: line := by
  unfold takeLine
  split
  next => exact List.rdropWhile_prefix _ _
  next => exact List.prefix_refl line

theorem takeLine_eq_self_iff :
    takeLine chomps line = line ↔ (chomps = true → line.getLast? ≠ some '\r') := by
  unfold takeLine
  cases chomps with
  | false => simp
  | true =>
    rw [if_pos rfl, List.rdropWhile_eq_self_iff]
    simp only [forall_const, decide_eq_true_eq]
    constructor
    · intro h hlast
      obtain ⟨before, rfl⟩ := List.getLast?_eq_some_iff.mp hlast
      exact h (by simp) (List.getLast_concat)
    · intro h hne hlast
      exact h (hlast ▸ List.getLast?_eq_some_getLast hne)

/-- A text comes back from the first line of what begins with it if it is one line. -/
theorem takeLine_takeWhile_iff :
    String.ofList (takeLine chomps ((value.toList ++ '\n' :: rest).takeWhile (· ≠ '\n'))) = value
      ↔ OneLine chomps value := by
  have hlist : String.ofList (takeLine chomps
        ((value.toList ++ '\n' :: rest).takeWhile (· ≠ '\n'))) = value
      ↔ takeLine chomps ((value.toList ++ '\n' :: rest).takeWhile (· ≠ '\n')) = value.toList := by
    rw [← String.toList_inj, String.toList_ofList]
  rw [hlist]
  constructor
  · intro h
    have hline : '\n' ∉ value.toList := fun hmem => by
      rw [← h] at hmem
      have hkept := List.mem_takeWhile_imp ((takeLine_initial _ _).subset hmem)
      exact of_decide_eq_true hkept rfl
    rw [takeWhile_line hline] at h
    exact ⟨hline, takeLine_eq_self_iff.mp h⟩
  · intro ⟨hline, hlast⟩
    rw [takeWhile_line hline]
    exact takeLine_eq_self_iff.mpr hlast

/-- Two texts on a line each. -/
theorem readAuth_iff (chomps : Bool) (username password : String) :
    readAuth chomps (username ++ "\n" ++ password ++ "\n") = (username, password)
      ↔ OneLine chomps username ∧ OneLine chomps password := by
  have hfile : (username ++ "\n" ++ password ++ "\n").toList
      = username.toList ++ '\n' :: (password.toList ++ '\n' :: []) := by
    simp [String.toList_append]
  unfold readAuth
  rw [hfile, Prod.mk.injEq, takeLine_takeWhile_iff]
  refine and_congr_right fun hline => ?_
  rw [dropWhile_line hline.1, List.drop_succ_cons, List.drop_zero, takeLine_takeWhile_iff]

end Read

/-- **The file gives back what was entered** where neither text has a line feed in it; and where
neither ends in a carriage return, if the reader takes those off. -/
theorem auth_faithful_iff (chomps : Bool) (console : VpnConsole) (files : VpnFiles)
    (profile now : String) (redirectGateway autoReconnect : Bool)
    (username password : Option String)
    (haccepted : console.check
      (.connect profile redirectGateway autoReconnect username password) = none)
    (hentered : hasCredentials username password = true) :
    ((Request.exec console files
        ⟨.connect profile redirectGateway autoReconnect username password, now⟩).auth profile).map
          (readAuth chomps) = some (username.getD "", password.getD "")
      ↔ OneLine chomps (username.getD "") ∧ OneLine chomps (password.getD "") := by
  have hfile : (Request.exec console files
      ⟨.connect profile redirectGateway autoReconnect username password, now⟩).auth profile
        = some (username.getD "" ++ "\n" ++ password.getD "" ++ "\n") := by
    unfold Request.exec Command.lookUp
    rw [haccepted]
    simp only [hentered, if_true]
    split
    next => exact Function.update_self _ _ _
    next => exact Function.update_self _ _ _
  rw [hfile, Option.map_some, Option.some.injEq, readAuth_iff]

theorem auth_faithful_plain :
    ((Request.exec plantConsole { desired := none, auth := fun _ => none }
        ⟨.connect "plant" false true (some "operator") (some "s3cret"), ""⟩).auth "plant").map
          (readAuth true) = some ("operator", "s3cret") :=
  (auth_faithful_iff true plantConsole _ "plant" "" false true (some "operator") (some "s3cret")
    (by decide +kernel) rfl).mpr (by unfold OneLine; decide +kernel)

/-- A line feed in the password: what OpenVPN reads of it is what stands before. -/
theorem auth_cut_short :
    plantConsole.check (.connect "plant" false true (some "operator") (some "s3\ncret")) = none
      ∧ ((Request.exec plantConsole { desired := none, auth := fun _ => none }
          ⟨.connect "plant" false true (some "operator") (some "s3\ncret"), ""⟩).auth "plant").map
            (readAuth true) = some ("operator", "s3") := by
  decide +kernel

end EdgeSensor.Vpn
