import Livecast.Proofs.Command.Happening
import Livecast.Proofs.Text.Cutting

/-!
# A key that is given needs no keyring

A command that is given the key of its channel never looks into the keyring.  Two hosts on which the
same configuration and the same media are in force may have keyrings that differ in any way, and the
command comes to the same on both: the same session, the same frames, the same output and the same
end.

The one thing that it does need is a place for the keyring.  Where the environment names no folder
the standard configuration is in force, but the command fails before it looks at its key.

## Main Definitions

* `Command.key?` - the key that is given to a command
* `CommandLine.Outcome`, `CommandLine.outcome` - what can be seen of a command
* `Command.MediaAlike`, `CommandLine.Alike` - hosts that differ in nothing but their keyrings
* `CommandLine.unlocated` - the failure of a command that has no place for its keyring

## Main Statements

* `CommandLine.planCommand_congr` - what a command with a key leads to does not depend on a keyring
* `CommandLine.Meets.outcome_of_unlocated`, `CommandLine.Meets.outcome_ne` - a command that has no
  place for its keyring fails as no other command with a key does
* `CommandLine.outcome_eq_iff` - when the outcomes on two hosts are the same
* `CommandLine.key_needs_place` - without a place for the keyring, a key does not help
-/

namespace Livecast

/-- The key that is given to a command. -/
def Command.key? : Command → Option String
  | .publish _ key _ _ | .watch _ key _ => key
  | _ => none

/-- The media of a command are the same in two volumes: its input opens alike, or its output is made
alike. -/
def Command.MediaAlike (v w : Volume) : Command → Prop
  | .publish _ _ input _ => ∀ chunk,
    ReaderSource.openPath v (mediaInput input) chunk =
      ReaderSource.openPath w (mediaInput input) chunk
  | .watch _ _ output =>
    (Recorder.create v output).map Prod.snd = (Recorder.create w output).map Prod.snd
  | _ => True

namespace CommandLine

/-! ## What can be seen of a command -/

/-- What can be seen of a command. -/
structure Outcome where
  /-- The address of its session, if it runs one. -/
  url : Option String
  /-- What was put on the stream. -/
  sent : List Dispatch
  /-- What was written of the received media. -/
  output : Bytes
  /-- How it ended, if it has. -/
  ending : Option Ending

/-- What can be seen of a command line on a host, when its session meets some happenings. -/
def outcome (host : Host) (words : List String) (hs : List Happening) : Outcome :=
  match (plan host words).2 with
  | .ended ending => ⟨none, [], [], some ending⟩
  | .session setup =>
    let l := (LiveSession.start setup).run hs
    ⟨some setup.url, l.connection.written, l.written, l.ending?⟩

/-! ## The keyring is not looked at -/

variable {s t : Setting} {v w : Volume} {key : String}

/-- A key that is given is the key, and nothing is read for it. -/
theorem address_given (s : Setting) (v : Volume) (channel key : String) (role : Role) :
    address s v channel (some key) role =
      ([], match streamUrl s.base channel key role with
        | .ok url => .ok (key, url)
        | .error e => .error (.plain e.message)) := rfl

theorem planPublish_congr (config : s.config = t.config) (filter : s.filter = t.filter)
    (base : s.base = t.base) (channel : String) {input : Option Path} (cadence : Option Nat)
    (media : ∀ chunk, ReaderSource.openPath v (mediaInput input) chunk =
      ReaderSource.openPath w (mediaInput input) chunk) :
    planPublish s v channel (some key) input cadence =
      planPublish t w channel (some key) input cadence := by
  simp only [planPublish, address_given, config, filter, base, media]

theorem planWatch_congr (config : s.config = t.config) (filter : s.filter = t.filter)
    (base : s.base = t.base) (channel : String) {output : Path}
    (media : (Recorder.create v output).map Prod.snd = (Recorder.create w output).map Prod.snd) :
    (planWatch s v channel (some key) output).2 = (planWatch t w channel (some key) output).2 := by
  simp only [planWatch, address_given, config, filter, base]
  cases streamUrl t.base channel key .watch with
  | error e => rfl
  | ok url =>
      cases first : Recorder.create v output <;> cases second : Recorder.create w output <;>
        simp_all [Except.map]

/-- **What a command with a key leads to does not depend on the keyring**, only on the
configuration, the filter, the base of addresses and the media. -/
theorem planCommand_congr (config : s.config = t.config) (filter : s.filter = t.filter)
    (base : s.base = t.base) {command : Command} (given : command.key? = some key)
    (media : command.MediaAlike v w) :
    (planCommand s v command).2 = (planCommand t w command).2 := by
  cases command with
  | publish channel key' input cadence =>
      obtain rfl : key' = some key := given
      exact planPublish_congr config filter base channel cadence media
  | watch channel key' output =>
      obtain rfl : key' = some key := given
      exact planWatch_congr config filter base channel media
  | _ => simp [Command.key?] at given

end CommandLine

/-! ## Failures that cannot be mistaken for each other -/

namespace Failure

/-- The first line of a failure shows how its message begins. -/
theorem exists_head_lines {f : Failure} {front rest : String} (message : f.message = front ++ rest)
    (line : '\n' ∉ front.toList) : ∃ more, f.lines.head? = some ("Error: " ++ (front ++ more)) := by
  have unbroken : ∀ c ∈ front.toList, decide (c = '\n') = false := by
    intro c hc
    rw [decide_eq_false_iff_not]
    rintro rfl
    exact line hc
  obtain ⟨more, others, -, whole⟩ := Text.pieces_front unbroken rest.toList
  exact ⟨String.ofList more, by simp [lines, indented, message, whole]⟩

/-- Failures whose messages begin differently are shown differently. -/
theorem lines_ne {f g : Failure} {p q a b : String} (first : f.message = p ++ a)
    (second : g.message = q ++ b) (long : p.length = q.length) (other : p ≠ q)
    (lines : '\n' ∉ p.toList ∧ '\n' ∉ q.toList) : f.lines ≠ g.lines := by
  obtain ⟨more, hf⟩ := exists_head_lines first lines.1
  obtain ⟨more', hg⟩ := exists_head_lines second lines.2
  intro same
  rw [same, hg] at hf
  have texts := congrArg String.toList (Option.some.inj hf)
  simp only [String.toList_append, List.append_cancel_left_eq] at texts
  have fronts := List.append_inj texts (by simpa only [String.length_toList] using long.symm)
  exact other (String.toList_inj.mp fronts.1).symm

end Failure

namespace CommandLine

variable {s : Setting} {v : Volume} {key : String}

/-- How the messages begin with which a command with a key fails before its session runs. -/
def beginnings : List String :=
  ["streaming b", "channel ide", "streaming k", "failed to o", "failed to c"]

theorem message_begins (e : StreamUrlError) : ∃ p ∈ beginnings, ∃ rest, e.message = p ++ rest := by
  cases e with
  | invalidBase base =>
      have text : (StreamUrlError.invalidBase base).message =
          "streaming base URL must start with ws:// or wss://, got '" ++ base ++ "'" := rfl
      have cut : "streaming base URL must start with ws:// or wss://, got '" =
          "streaming b" ++ "ase URL must start with ws:// or wss://, got '" := by simp
      refine ⟨"streaming b", by simp [beginnings],
        "ase URL must start with ws:// or wss://, got '" ++ (base ++ "'"), ?_⟩
      rw [text, cut, String.append_assoc, String.append_assoc]
  | emptyChannel =>
      have cut : "channel identifier must not be empty" =
          "channel ide" ++ "ntifier must not be empty" := by simp
      exact ⟨"channel ide", by simp [beginnings], "ntifier must not be empty", cut⟩
  | emptyKey =>
      have cut : "streaming key must not be empty" = "streaming k" ++ "ey must not be empty" := by
        simp
      exact ⟨"streaming k", by simp [beginnings], "ey must not be empty", cut⟩

/-- With a key, an address is all that can be missing. -/
theorem address_cases (s : Setting) (v : Volume) (channel key : String) (role : Role) :
    (∃ e : StreamUrlError, address s v channel (some key) role = ([], .error (.plain e.message))) ∨
      ∃ url, address s v channel (some key) role = ([], .ok (key, url)) := by
  rw [address_given]
  cases streamUrl s.base channel key role with
  | error e => exact .inl ⟨e, rfl⟩
  | ok url => exact .inr ⟨url, rfl⟩

/-- **A command with a key that ends before its session runs** is not shown as one that has no place
for its keyring. -/
theorem planCommand_ended {command : Command} {ending : Ending} (given : command.key? = some key)
    (ended : (planCommand s v command).2 = .ended ending) :
    ∃ f : Failure, ending.lines = f.lines ∧ ∃ p ∈ beginnings, ∃ rest, f.message = p ++ rest := by
  cases command with
  | publish channel key' input cadence =>
      obtain rfl : key' = some key := given
      rcases address_cases s v channel key .publish with ⟨e, refused⟩ | ⟨url, found⟩
      · simp only [planCommand, planPublish, refused] at ended
        cases ended
        exact ⟨.plain e.message, rfl, message_begins e⟩
      · simp only [planCommand, planPublish, found] at ended
        split at ended
        · cases ended
          refine ⟨_, rfl, "failed to o", by simp [beginnings],
            "pen media input " ++ (mediaInput input).text, ?_⟩
          rw [← String.append_assoc]
          simp
        · cases ended
  | watch channel key' output =>
      obtain rfl : key' = some key := given
      rcases address_cases s v channel key .watch with ⟨e, refused⟩ | ⟨url, found⟩
      · simp only [planCommand, planWatch, refused] at ended
        cases ended
        exact ⟨.plain e.message, rfl, message_begins e⟩
      · simp only [planCommand, planWatch, found] at ended
        split at ended
        · cases ended
          refine ⟨_, rfl, "failed to c", by simp [beginnings], "reate " ++ output.text, ?_⟩
          rw [← String.append_assoc]
          simp
        · cases ended
  | _ => simp [Command.key?] at given

/-! ## Two hosts -/

/-- On a host a command line is an invocation, for which a configuration is in force. -/
structure Meets (words : List String) (i : Invocation) (c : Configuration) (h : Host) : Prop where
  /-- The command line is read as the invocation. -/
  parsed : parse h.environment words = .ok i
  /-- The configuration is in force. -/
  configured : configuration h i = .ok c

/-- Two hosts on which a command line is the same in all that does not concern the keyring. -/
structure Alike (words : List String) (i : Invocation) (c : Configuration) (h k : Host) : Prop where
  /-- It is an invocation on the one host. -/
  left : Meets words i c h
  /-- It is the same on the other, with the same configuration in force. -/
  right : Meets words i c k
  /-- The same lines are logged. -/
  logging : h.environment.lookup "RUST_LOG" = k.environment.lookup "RUST_LOG"
  /-- The input or the output is the same. -/
  media : i.command.MediaAlike h.volume k.volume

/-- The failure of a command that has no place for its keyring. -/
def unlocated : Failure :=
  ⟨"failed to locate the channel store", ["could not determine platform config directory"]⟩

section

variable {words : List String} {i : Invocation} {c : Configuration} {h k : Host}

theorem Meets.plan_of_located (meets : Meets words i c h) {keyring : Keyring}
    (located : keyring? h.environment i = some keyring) :
    plan h words = planCommand ⟨c, keyring,
      .choose (h.environment.lookup "RUST_LOG") (i.logLevel.getD c.logging.level),
      i.server.getD c.server.streams⟩ h.volume i.command := by
  rw [plan, meets.parsed]
  simp only [setting, meets.configured, located]
  rfl

theorem Meets.plan_of_unlocated (meets : Meets words i c h)
    (nowhere : keyring? h.environment i = none) :
    plan h words = (h.volume, .ended (.failure [] [] [] unlocated)) := by
  rw [plan, meets.parsed]
  simp only [setting, meets.configured, nowhere]
  rfl

theorem lines_unlocated : unlocated.lines = ["Error: failed to locate the channel store", "",
    "Caused by:", "    could not determine platform config directory"] := by
  decide +kernel

/-- **A command that has no place for its keyring fails**, whether it has a key or not. -/
theorem Meets.outcome_of_unlocated (meets : Meets words i c h)
    (nowhere : keyring? h.environment i = none) (hs : List Happening) :
    outcome h words hs = ⟨none, [], [], some ⟨1, [], unlocated.lines⟩⟩ := by
  rw [outcome, meets.plan_of_unlocated nowhere]
  rfl

/-- A command with a key that has a place for its keyring does not fail in this way. -/
theorem Meets.outcome_ne (meets : Meets words i c h) (given : i.command.key? = some key)
    {keyring : Keyring} (located : keyring? h.environment i = some keyring) (hs : List Happening) :
    outcome h words hs ≠ ⟨none, [], [], some ⟨1, [], unlocated.lines⟩⟩ := by
  rw [outcome, meets.plan_of_located located]
  split
  · next ending ended =>
      obtain ⟨f, lines, p, hp, rest, message⟩ := planCommand_ended given ended
      have other : f.lines ≠ unlocated.lines := by
        have begins : unlocated.message = "failed to l" ++ "ocate the channel store" := by
          simp [unlocated]
        simp only [beginnings, List.mem_cons, List.not_mem_nil, or_false] at hp
        rcases hp with rfl | rfl | rfl | rfl | rfl <;>
          exact Failure.lines_ne message begins (by decide) (by decide) (by decide)
      intro same
      have whole : ending = ⟨1, [], unlocated.lines⟩ := by simpa using same
      exact other (by rw [← lines, whole])
  · simp

/-- With a key, places for their keyrings make two hosts the same. -/
theorem Alike.outcome_eq (alike : Alike words i c h k) (given : i.command.key? = some key)
    {keyring keyring' : Keyring} (here : keyring? h.environment i = some keyring)
    (there : keyring? k.environment i = some keyring') (hs : List Happening) :
    outcome h words hs = outcome k words hs := by
  have same : (plan h words).2 = (plan k words).2 := by
    rw [alike.left.plan_of_located here, alike.right.plan_of_located there, alike.logging]
    refine planCommand_congr ?config ?filter ?base given alike.media
    all_goals rfl
  rw [outcome, outcome, same]

/-- **A key that is given makes the keyring irrelevant, but not the place for it.**  What can be
seen of a command with a key on two hosts that differ in nothing but their keyrings is the same,
whatever its server and its input do, exactly if both hosts have a place for a keyring or neither
has; and where there is none the command fails. -/
theorem outcome_eq_iff (alike : Alike words i c h k) (given : i.command.key? = some key)
    (hs : List Happening) :
    (outcome h words hs = outcome k words hs ↔
      ((keyring? h.environment i).isSome ↔ (keyring? k.environment i).isSome)) ∧
    (keyring? h.environment i = none → outcome h words hs = ⟨none, [], [], some ⟨1, [],
      ["Error: failed to locate the channel store", "", "Caused by:",
        "    could not determine platform config directory"]⟩⟩) := by
  rw [← lines_unlocated]
  refine ⟨?_, fun nowhere => alike.left.outcome_of_unlocated nowhere hs⟩
  cases here : keyring? h.environment i with
  | none =>
      rw [alike.left.outcome_of_unlocated here]
      cases there : keyring? k.environment i with
      | none => simp [alike.right.outcome_of_unlocated there]
      | some keyring => simpa using (alike.right.outcome_ne given there hs).symm
  | some keyring =>
      cases there : keyring? k.environment i with
      | none =>
          rw [alike.right.outcome_of_unlocated there]
          simpa using alike.left.outcome_ne given here hs
      | some keyring' => simp [alike.outcome_eq given here there]

/-- One host has no file at all, the other keeps a keyring that nobody can read. -/
theorem outcome_eq_iff_malformed :
    let words := ["publish", "--channel", "c", "--key", "k"]
    let i : Invocation := ⟨none, none, none, .publish "c" (some "k") none none⟩
    let h : Host := ⟨⟨[], []⟩, [("HOME", "/h")]⟩
    let k : Host := ⟨⟨[(["g", "vstream", "channels.toml"], .file (.ofText "[[")),
      (["g", "vstream"], .folder), (["g"], .folder)], []⟩, [("XDG_CONFIG_HOME", "/g")]⟩
    Alike words i .standard h k ∧ i.command.key? = some "k" ∧
      k.volume.readText ⟨"/g/vstream/channels.toml"⟩ = .ok "[[" ∧
      Keyring.channelsOf? "[[" = none ∧
      outcome h words [] = outcome k words [] := by
  intro words i h k
  have alike : Alike words i .standard h k := by
    refine ⟨⟨?_, ?_⟩, ⟨?_, ?_⟩, ?_, fun _ => rfl⟩ <;> decide +kernel
  refine ⟨alike, rfl, by decide +kernel, by decide +kernel, ?_⟩
  exact (outcome_eq_iff alike rfl []).1.mpr (by decide +kernel)

/-- **A key does not help a command that has no place for its keyring**: with a home folder it
publishes to the standard server, and without one it fails, although the same configuration is in
force. -/
theorem key_needs_place :
    let words := ["publish", "--channel", "c", "--key", "k"]
    let i : Invocation := ⟨none, none, none, .publish "c" (some "k") none none⟩
    let h : Host := ⟨⟨[], []⟩, [("HOME", "/h")]⟩
    let k : Host := ⟨⟨[], []⟩, []⟩
    Alike words i .standard h k ∧ i.command.key? = some "k" ∧
      (outcome h words []).url = some "ws://127.0.0.1/c/k/publish" ∧
      outcome k words [] = ⟨none, [], [], some ⟨1, [], ["Error: failed to locate the channel store",
        "", "Caused by:", "    could not determine platform config directory"]⟩⟩ := by
  intro words i h k
  have alike : Alike words i .standard h k := by
    refine ⟨⟨?_, ?_⟩, ⟨?_, ?_⟩, ?_, fun _ => rfl⟩ <;> decide +kernel
  refine ⟨alike, rfl, by decide +kernel, ?_⟩
  rw [alike.right.outcome_of_unlocated rfl, lines_unlocated]

end

end CommandLine

end Livecast
