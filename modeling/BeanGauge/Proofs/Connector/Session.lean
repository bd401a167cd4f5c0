import BeanGauge.Connector.Basic
import BeanGauge.Proofs.Host.Process
import BeanGauge.Proofs.Host.Prompt
import BeanGauge.Proofs.Json.Words
import Mathlib.Data.List.Forall2
/-!
# A session stays in step

A console answers each `dump` with an optional echo of the command, a JSON text, blanks with a line
end among them, the prompt, and blanks that may come late. However all of that is cut into reads,
each dump is the dump of its own JSON text and the session is kept. A console on a tape shows that
replies may be any and cut in any way.

What a console does that sends no JSON, or no prompt in time, is not described here.
-/

namespace BeanGauge

open BeanGauge.Prompt (mark bytesOf)

/-- What a console sends when it is asked for a dump. -/
structure Reply where
  /-- The command, if the console repeats it. -/
  echo : Bytes
  payload : String
  gap : Bytes
  /-- What comes behind the prompt. -/
  tail : Bytes
  echoed : echo = [] ∨ echo = Text.encode "dump\n" ∨ echo = Text.encode "dump\r\n"
  json : (Json.parse payload).isSome
  gapBlank : ∀ b ∈ gap, Prompt.isSpace b
  gapLine : 0x0a ∈ gap
  tailBlank : ∀ b ∈ tail, Prompt.isSpace b

namespace Reply

/-- The bytes up to the prompt. -/
def text (r : Reply) : Bytes := r.echo ++ Text.encode r.payload ++ r.gap

/-- What a dump with this reply returns. -/
def result (explain : String → String) (e : Endpoint) (r : Reply) : Except ConnectorError Dump :=
  (Dump.parse explain r.payload).mapError (.protocol e.text)

/-- The reply of a console that repeats no command and has its prompt on the next line. -/
def line (payload : String) (json : (Json.parse payload).isSome) : Reply :=
  ⟨[], payload, [0x0a], [], .inl rfl, json, List.all_eq_true.1 rfl, List.mem_singleton_self _,
    List.forall_mem_nil _⟩

end Reply

theorem Prompt.lt_of_isSpace {b : UInt8} (h : isSpace b) : b < 0x80 := by
  simp only [isSpace, Bool.or_eq_true, beq_iff_eq] at h
  rcases h with (((rfl | rfl) | rfl) | rfl) | rfl <;> decide

theorem Prompt.isBlank_asciiChar {b : UInt8} (h : isSpace b) : Text.isBlank (Text.asciiChar b) := by
  simp only [isSpace, Bool.or_eq_true, beq_iff_eq] at h
  rcases h with (((rfl | rfl) | rfl) | rfl) | rfl <;> decide

theorem Prompt.isBlank_of_mem_map {bytes : Bytes} (h : ∀ b ∈ bytes, isSpace b) :
    ∀ c ∈ bytes.map Text.asciiChar, Text.isBlank c := by
  intro c hc
  obtain ⟨b, hb, rfl⟩ := List.mem_map.1 hc
  exact isBlank_asciiChar (h b hb)

namespace Reply

/-- The dollar signs before the prompt all stand in strings of the payload. -/
theorem dollarBytesQuoted (r : Reply) {left : Bytes} (hleft : ∀ b ∈ left, Prompt.isSpace b) :
    Text.DollarBytesQuoted (left ++ r.text) := by
  have hblank : ∀ bytes : Bytes, (∀ b ∈ bytes, Prompt.isSpace b) → Text.DollarBytesQuoted bytes :=
    fun _ => Text.shielded_of_forall rfl
  have hecho : Text.DollarBytesQuoted r.echo := by
    apply Text.shielded_of_not_mem
    rcases r.echoed with he | he | he <;> rw [he] <;> decide
  have hpayload : Text.DollarBytesQuoted (Text.encode r.payload) :=
    (Json.dollarsQuoted_of_parse r.json).encode
  exact (hblank _ hleft).append ((hecho.append hpayload).append (hblank _ r.gapBlank))

/-- The text of a reply is that of its parts. -/
theorem decode_text (r : Reply) {left : Bytes} (hleft : ∀ b ∈ left, Prompt.isSpace b) :
    (Text.decode (left ++ r.text)).toList = left.map Text.asciiChar ++
      (r.echo.map Text.asciiChar ++ (r.payload.toList ++ r.gap.map Text.asciiChar)) := by
  have hascii : r.echo.all (· < 0x80) := by
    rcases r.echoed with he | he | he <;> rw [he] <;> decide
  have hecho : ∀ b ∈ r.echo, b < 0x80 := by simpa using hascii
  have hgap : ∀ b ∈ r.gap, b < 0x80 := fun b hb => Prompt.lt_of_isSpace (r.gapBlank b hb)
  have hend := Text.decodeFrom_ascii hgap []
  rw [List.append_nil, Text.decodeFrom, List.append_nil] at hend
  rw [Text.decode, String.toList_ofList, text, List.append_assoc,
    Text.decodeFrom_ascii fun b hb => Prompt.lt_of_isSpace (hleft b hb),
    Text.decodeFrom_ascii hecho, Text.decodeFrom_encode, hend]

end Reply

namespace Connector

theorem answerTo_eq_of_not_prefix {command : String} {left core right : List Char}
    (hcore : Text.Tight core) (hleft : ∀ c ∈ left, Text.isBlank c)
    (hright : ∀ c ∈ right, Text.isBlank c) (h : ¬ command.toList <+: core) :
    answerTo command (String.ofList (left ++ (core ++ right))) = String.ofList core := by
  have hno : command.toList.isPrefixOf core = false := by
    rw [Bool.eq_false_iff, ne_eq, List.isPrefixOf_iff_prefix]
    exact h
  simp only [answerTo, Text.trim, String.toList_ofList, hcore.trimChars hleft hright, hno,
    Bool.false_eq_true, if_false]

/-- The echo of a command is cut off with the blanks behind it. -/
theorem answerTo_echo {command : String} {left between core right : List Char}
    (hcommand : Text.Tight command.toList) (hcore : Text.Tight core)
    (hleft : ∀ c ∈ left, Text.isBlank c) (hbetween : ∀ c ∈ between, Text.isBlank c)
    (hright : ∀ c ∈ right, Text.isBlank c) :
    answerTo command (String.ofList
      (left ++ (command.toList ++ (between ++ core) ++ right))) = String.ofList core := by
  have htrim := (hcommand.join hcore between).trimChars hleft hright
  have hnone : ∀ c ∈ ([] : List Char), Text.isBlank c := by simp
  have hcut := hcore.trimChars hbetween hnone
  have hstart : command.toList.isPrefixOf (command.toList ++ (between ++ core)) := by
    rw [List.isPrefixOf_iff_prefix]
    exact List.prefix_append _ _
  rw [List.append_nil] at hcut
  simp only [answerTo, Text.trim, String.toList_ofList, htrim, hstart, if_true,
    ← String.length_toList, List.drop_left, hcut]

/-- No JSON text starts like the command. -/
theorem not_dump_prefix {core : List Char} (h : (Json.parse (String.ofList core)).isSome) :
    ¬ "dump".toList <+: core := by
  rintro ⟨rest, rfl⟩
  have hnone : Json.parse (String.ofList ("dump".toList ++ rest)) = none :=
    Json.parse_eq_none_of_head (c := 'd') (by decide) fun _ => rfl
  rw [hnone] at h
  cases h

/-- What is read of a reply is the value of its payload, whatever blanks and echo stand before. -/
theorem parse_answerTo (r : Reply) {left : Bytes} (hleft : ∀ b ∈ left, Prompt.isSpace b) :
    Json.parse (answerTo "dump" (Text.decode (left ++ r.text))) = Json.parse r.payload := by
  obtain ⟨before, core, after, hcore⟩ := Json.exists_core r.json
  have hleft' := Prompt.isBlank_of_mem_map hleft
  have hbefore : ∀ c ∈ before, Text.isBlank c :=
    fun c hc => Json.isBlank_of_isSpace (hcore.leftBlank c hc)
  have hbehind : ∀ c ∈ after, Text.isBlank c :=
    fun c hc => Json.isBlank_of_isSpace (hcore.rightBlank c hc)
  have hafter : ∀ c ∈ after ++ r.gap.map Text.asciiChar, Text.isBlank c :=
    List.forall_mem_append.2 ⟨hbehind, Prompt.isBlank_of_mem_map r.gapBlank⟩
  have hchars := r.decode_text hleft
  rw [hcore.parts] at hchars
  have hecho : ∀ line : List Char, (∀ c ∈ line, Text.isBlank c) →
      r.echo.map Text.asciiChar = "dump".toList ++ line →
      answerTo "dump" (Text.decode (left ++ r.text)) = String.ofList core := by
    intro line hline he
    have hbetween : ∀ c ∈ line ++ before, Text.isBlank c :=
      List.forall_mem_append.2 ⟨hline, hbefore⟩
    have hdump : Text.Tight "dump".toList :=
      ⟨⟨'d', ['u', 'm', 'p'], rfl, by decide⟩, ⟨['d', 'u', 'm'], 'p', rfl, by decide⟩⟩
    rw [← answerTo_echo hdump hcore.tight hleft' hbetween hafter,
      ← String.ofList_toList (s := Text.decode _), hchars, he]
    simp only [List.append_assoc]
  rw [← hcore.same]
  rcases r.echoed with he | he | he
  · have hno : ¬ "dump".toList <+: core := not_dump_prefix (by rw [hcore.same]; exact r.json)
    have hbefore' : ∀ c ∈ left.map Text.asciiChar ++ before, Text.isBlank c :=
      List.forall_mem_append.2 ⟨hleft', hbefore⟩
    rw [← answerTo_eq_of_not_prefix hcore.tight hbefore' hafter hno,
      ← String.ofList_toList (s := Text.decode _), hchars, he]
    simp only [List.map_nil, List.nil_append, List.append_assoc]
  · rw [hecho ['\n'] (List.all_eq_true.1 rfl) (by rw [he]; rfl)]
  · rw [hecho ['\r', '\n'] (List.all_eq_true.1 rfl) (by rw [he]; rfl)]

end Connector

/-- A text with the value of a JSON text is decoded like that. -/
theorem Dump.parse_congr {explain : String → String} {text payload : String}
    (hjson : (Json.parse payload).isSome) (hsame : Json.parse text = Json.parse payload) :
    parse explain text = parse explain payload := by
  obtain ⟨j, hj⟩ := Option.isSome_iff_exists.1 hjson
  rw [parse, parse, hsame, hj]

namespace Connector

variable {π : Type} {b : Behaviour π}

/-- A process that still sends the blanks `left` answers one `dump` with a reply, within the time
that a dump may take. `taken` are the reads before the one that completes the prompt; blanks behind
the prompt come with that read, with later ones, or when nobody waits any more. -/
inductive Exchange (b : Behaviour π) (millis : Nat) (s : π) (left : Bytes) (r : Reply) :
    π → Bytes → Prop
  | reads {s' : π} {seen unseen : Bytes} {taken later : List (Arrival π)} {a : Arrival π}
      (asked : b.write s (commandLine "dump") = .ok s')
      (comes : (b.incoming s' millis).arrivals = taken ++ a :: later)
      (stream : bytesOf taken ++ (a.bytes ++ bytesOf later) = left ++ (r.text ++ (mark ++ seen)))
      (ends : r.tail = seen ++ unseen)
      (before : (bytesOf taken).length < (left ++ (r.text ++ mark)).length)
      (completes : (left ++ (r.text ++ mark)).length ≤ (bytesOf taken ++ a.bytes).length) :
      Exchange b millis s left r a.after (bytesOf later ++ unseen)

/-- A process answers the dumps that are asked of it, each after some time, with some replies. -/
inductive Answers (b : Behaviour π) (millis : Nat) : π → Bytes → List (Nat × Reply) → Prop
  | done {s : π} {left : Bytes} : Answers b millis s left []
  | reply {s s' : π} {left left' : Bytes} {pause : Nat} {r : Reply} {replies : List (Nat × Reply)}
      (first : Exchange b millis (b.pass s pause) left r s' left')
      (next : Answers b millis s' left' replies) :
      Answers b millis s left ((pause, r) :: replies)

/-- Asks for dumps one after another. Before each of them all processes are left to themselves for
some time. -/
def dumps (b : Behaviour π) (h : Host π) (c : Connector) :
    List Nat → List (Except ConnectorError Dump) × Connector × Host π
  | [] => ([], c, h)
  | pause :: pauses =>
    let first := c.dump b (h.pass b pause)
    let rest := dumps b first.2.2 first.2.1 pauses
    (first.1 :: rest.1, rest.2)

/-- A dump whose wait ends with a prompt. -/
theorem dump_of_scan {h : Host π} {c : Connector} {s : Session} {p p' : π} {text : Bytes}
    {a : Arrival π} (hs : c.session = some s) (hp : h.find? s.pid = some p)
    (hw : b.write p (commandLine "dump") = .ok p')
    (hscan : Prompt.scan [] (b.incoming p' c.dumpTimeout.toNat).arrivals = some (text, a)) :
    c.dump b h = ((Dump.parse b.noJson (answerTo "dump" (Text.decode text))).mapError
        (.protocol s.endpoint.text), c,
      ((h.update s.pid p').pass b a.elapsed).update s.pid a.after) := by
  have hwrite := Host.write_eq_ok hp hw
  have hfind := Host.find?_update hp p'
  have hwait : (h.update s.pid p').awaitPrompt b s.pid (h.clock + c.dumpTimeout.toNat) =
      (.ok (Text.decode text), ((h.update s.pid p').pass b a.elapsed).update s.pid a.after) := by
    rw [Host.awaitPrompt, Host.incoming_eq_some hfind, Host.clock_update, Nat.add_sub_cancel_left]
    simp only [hscan]
  simp only [dump, hs, askDump, hwrite, hwait]

/-- The reads of a reply, whatever they are, end with the text before its prompt, and only blanks
are left to come. -/
theorem scan_reply (r : Reply) {left seen : Bytes} {taken later : List (Arrival π)}
    {a : Arrival π} (hleft : ∀ b ∈ left, Prompt.isSpace b) (hseen : ∀ b ∈ seen, Prompt.isSpace b)
    (stream : bytesOf taken ++ (a.bytes ++ bytesOf later) = left ++ (r.text ++ (mark ++ seen)))
    (before : (bytesOf taken).length < (left ++ (r.text ++ mark)).length)
    (completes : (left ++ (r.text ++ mark)).length ≤ (bytesOf taken ++ a.bytes).length) :
    Prompt.scan [] (taken ++ a :: later) = some (left ++ r.text, a) ∧
      ∀ b ∈ bytesOf later, Prompt.isSpace b := by
  have hquiet : Prompt.Quiet (left ++ r.text ++ mark) :=
    Prompt.quiet_of_not_hasPrompt
      (Prompt.not_hasPrompt_of_dollarBytesQuoted (r.dollarBytesQuoted hleft))
  rw [← List.append_assoc left] at before completes
  have hrest : ∃ blanks, bytesOf taken ++ a.bytes = left ++ r.text ++ mark ++ blanks ∧
      seen = blanks ++ bytesOf later := by
    have hall : bytesOf taken ++ a.bytes ++ bytesOf later = left ++ r.text ++ mark ++ seen := by
      simpa only [List.append_assoc] using stream
    rcases List.append_eq_append_iff.1 hall with ⟨mid, hmid, hlater⟩ | ⟨mid, hmid, hlater⟩
    · have hlen : (left ++ r.text ++ mark).length =
          (bytesOf taken ++ a.bytes).length + mid.length := by rw [hmid, List.length_append]
      obtain rfl : mid = [] := List.length_eq_zero_iff.1 (by omega)
      rw [List.append_nil] at hmid
      exact ⟨[], by rw [hmid, List.append_nil], hlater.symm⟩
    · exact ⟨mid, hmid, hlater⟩
  obtain ⟨blanks, hread, rfl⟩ := hrest
  obtain ⟨hblanks, hlater⟩ := List.forall_mem_append.1 hseen
  refine ⟨?_, hlater⟩
  refine Prompt.scan_of_quiet later hquiet taken [] ?_ before ?_
  · have hmore : left ++ r.text ++ mark <+: bytesOf taken ++ a.bytes := by
      rw [hread]
      exact List.prefix_append _ _
    exact List.prefix_of_prefix_length_le (List.prefix_append _ a.bytes) hmore before.le
  · have htext : left ++ r.text = left ++ (r.echo ++ Text.encode r.payload) ++ r.gap := by
      rw [Reply.text, List.append_assoc]
      simp only [List.append_assoc]
    rw [List.nil_append, hread, htext, List.append_assoc _ mark]
    exact Prompt.before?_append_mark _ r.gapBlank r.gapLine hblanks

/-- One dump of a session in step: it is the dump of the payload, the connector keeps its session,
and the process is left with only blanks to send. -/
theorem dump_of_exchange {h : Host π} {c : Connector} {s : Session} {p p' : π} {r : Reply}
    {left left' : Bytes} (hs : c.session = some s) (hp : h.find? s.pid = some p)
    (hleft : ∀ b ∈ left, Prompt.isSpace b)
    (hexchange : Exchange b c.dumpTimeout.toNat p left r p' left') :
    (∃ h', c.dump b h = (r.result b.noJson s.endpoint, c, h') ∧ h'.find? s.pid = some p') ∧
      ∀ b ∈ left', Prompt.isSpace b := by
  cases hexchange with
  | @reads p₁ seen unseen taken later a asked comes stream ends before completes =>
    have htail : ∀ b ∈ seen ++ unseen, Prompt.isSpace b := ends ▸ r.tailBlank
    obtain ⟨hseen, hunseen⟩ := List.forall_mem_append.1 htail
    obtain ⟨hscan, hlater⟩ := scan_reply r hleft hseen stream before completes
    constructor
    · refine ⟨((h.update s.pid p₁).pass b a.elapsed).update s.pid a.after, ?_, ?_⟩
      · rw [dump_of_scan hs hp asked (by rw [comes]; exact hscan), Reply.result,
          Dump.parse_congr r.json (parse_answerTo r hleft)]
      · have hwaited : ((h.update s.pid p₁).pass b a.elapsed).find? s.pid =
            some (b.pass p₁ a.elapsed) := by
          rw [Host.find?_pass, Host.find?_update hp, Option.map_some]
        exact Host.find?_update hwaited a.after
    · exact List.forall_mem_append.2 ⟨hlater, hunseen⟩

/-- A session stays in step: for any replies, cut into reads in any way, each dump is the dump of
its own payload, and the connector keeps its session and the process. -/
theorem dumps_eq_payloads {h : Host π} {c : Connector} {s : Session} {p : π} {left : Bytes}
    {replies : List (Nat × Reply)} (hs : c.session = some s) (hp : h.find? s.pid = some p)
    (hleft : ∀ b ∈ left, Prompt.isSpace b)
    (hanswers : Answers b c.dumpTimeout.toNat p left replies) :
    (c.dumps b h (replies.map (·.1))).1 =
        replies.map (fun r => r.2.result b.noJson s.endpoint) ∧
      (c.dumps b h (replies.map (·.1))).2.1 = c ∧
      ((c.dumps b h (replies.map (·.1))).2.2.find? s.pid).isSome := by
  induction hanswers generalizing h with
  | done => exact ⟨rfl, rfl, by rw [List.map_nil, dumps, hp]; rfl⟩
  | @reply p p' left left' pause r replies first next ih =>
    have hpaused : (h.pass b pause).find? s.pid = some (b.pass p pause) := by
      rw [Host.find?_pass, hp, Option.map_some]
    obtain ⟨⟨h', hdump, hkept⟩, hblank⟩ := dump_of_exchange hs hpaused hleft first
    obtain ⟨hrest, hconnector, hprocess⟩ := ih hkept hblank
    simp only [List.map_cons, dumps, hdump]
    exact ⟨by rw [hrest], hconnector, hprocess⟩

/-- The reads that are still to come, and those that each further command brings. -/
abbrev Tape := List Bytes × List (List Bytes)

/-- The reads of a tape as they arrive. -/
def Tape.arrivals (later : List (List Bytes)) : List Bytes → List (Arrival Tape)
  | [] => []
  | bytes :: reads => ⟨bytes, (reads, later), 0⟩ :: arrivals later reads

/-- A console that plays its replies from a tape. -/
def Tape.console : Behaviour Tape where
  start _ _ _ := .ok ([], [])
  running _ := true
  write t _ := .ok (t.1 ++ t.2.headD [], t.2.tail)
  incoming t millis := ⟨arrivals t.2 t.1, .timedOut, ([], t.2), millis⟩
  pass t _ := t
  noJson _ := "not understood"
  noYaml _ := "not understood"

theorem Tape.arrivals_append (later : List (List Bytes)) (taken : List Bytes) (bytes : Bytes)
    (reads : List Bytes) : ∃ before,
      Tape.arrivals later (taken ++ bytes :: reads) =
        before ++ ⟨bytes, (reads, later), 0⟩ :: Tape.arrivals later reads ∧
      bytesOf before = taken.flatten := by
  induction taken with
  | nil => exact ⟨[], rfl, rfl⟩
  | cons first taken ih =>
    obtain ⟨before, harrivals, hbytes⟩ := ih
    refine ⟨⟨first, (taken ++ bytes :: reads, later), 0⟩ :: before, ?_, ?_⟩
    · rw [List.cons_append, arrivals, harrivals, List.cons_append]
    · rw [bytesOf, List.flatMap_cons, ← bytesOf, hbytes, List.flatten_cons]

/-- The reads of a tape bring all its bytes. -/
theorem Tape.bytesOf_arrivals (later : List (List Bytes)) (reads : List Bytes) :
    bytesOf (Tape.arrivals later reads) = reads.flatten := by
  induction reads with
  | nil => rfl
  | cons bytes reads ih =>
    rw [arrivals, bytesOf, List.flatMap_cons, ← bytesOf, ih, List.flatten_cons]

/-- Of some reads that bring at least `n` bytes, one completes the first `n`. -/
theorem Tape.exists_completing {reads : List Bytes} {n : Nat} (hpos : 0 < n)
    (hn : n ≤ reads.flatten.length) : ∃ taken bytes later, reads = taken ++ bytes :: later ∧
      taken.flatten.length < n ∧ n ≤ (taken.flatten ++ bytes).length := by
  induction reads generalizing n with
  | nil =>
    rw [List.flatten_nil, List.length_nil] at hn
    omega
  | cons bytes reads ih =>
    by_cases hfirst : n ≤ bytes.length
    · exact ⟨[], bytes, reads, rfl, hpos, hfirst⟩
    · rw [List.flatten_cons, List.length_append] at hn
      have hpos' : 0 < n - bytes.length := by omega
      obtain ⟨taken, last, later, rfl, hbefore, hafter⟩ := ih hpos' (by omega)
      rw [List.length_append] at hafter
      refine ⟨bytes :: taken, last, later, rfl, ?_, ?_⟩
      · rw [List.flatten_cons, List.length_append]
        omega
      · rw [List.flatten_cons, List.length_append, List.length_append]
        omega

/-- Whatever a reply is cut into, its reads are an exchange. Those behind the one that completes
the prompt are left for the next. -/
theorem Tape.exchange_of_cut (r : Reply) (pending : List Bytes) {cut : List Bytes}
    (hcut : cut.flatten = r.text ++ (mark ++ r.tail)) (later : List (List Bytes)) (millis : Nat) :
    ∃ rest, Exchange Tape.console millis (pending, cut :: later) pending.flatten r (rest, later)
      rest.flatten := by
  have hall : (pending ++ cut).flatten = pending.flatten ++ (r.text ++ (mark ++ r.tail)) := by
    rw [List.flatten_append, hcut]
  have hpos : 0 < (pending.flatten ++ (r.text ++ mark)).length :=
    List.length_pos_iff.2 (by simp [mark])
  have henough : (pending.flatten ++ (r.text ++ mark)).length ≤
      (pending ++ cut).flatten.length := by
    rw [hall]
    simp only [List.length_append]
    omega
  obtain ⟨taken, bytes, rest, hreads, hbefore, hafter⟩ := Tape.exists_completing hpos henough
  obtain ⟨before, harrivals, hbytes⟩ := Tape.arrivals_append later taken bytes rest
  rw [← hbytes] at hbefore hafter
  have hasked : Tape.console.write (pending, cut :: later) (commandLine "dump") =
      .ok (pending ++ cut, later) := rfl
  have hcomes : (Tape.console.incoming (pending ++ cut, later) millis).arrivals =
      before ++ ⟨bytes, (rest, later), 0⟩ :: Tape.arrivals later rest := by
    rw [← harrivals, ← hreads]
    rfl
  have hstream : bytesOf before ++ (bytes ++ bytesOf (Tape.arrivals later rest)) =
      pending.flatten ++ (r.text ++ (mark ++ r.tail)) := by
    rw [Tape.bytesOf_arrivals, hbytes, ← hall, hreads, List.flatten_append, List.flatten_cons]
  have hexchange := Exchange.reads hasked hcomes hstream (List.append_nil _).symm hbefore hafter
  rw [Tape.bytesOf_arrivals, List.append_nil] at hexchange
  exact ⟨rest, hexchange⟩

/-- The console answers with any replies, in any reads. -/
theorem Tape.answers_of_cuts (millis : Nat) {replies : List (Nat × Reply)}
    {cuts : List (List Bytes)}
    (h : List.Forall₂ (fun r cut => cut.flatten = r.2.text ++ (mark ++ r.2.tail)) replies cuts)
    (pending : List Bytes) :
    Answers Tape.console millis (pending, cuts) pending.flatten replies := by
  induction h generalizing pending with
  | nil => exact .done
  | cons hcut _ ih =>
    obtain ⟨rest, hexchange⟩ := Tape.exchange_of_cut _ pending hcut _ millis
    exact .reply hexchange (ih rest)

/-- A reply with a string that ends like a prompt, and blanks behind the real one. -/
def Tape.promptInString : Reply :=
  ⟨[], "\x7b\"a:b=c\":\x7b\"v\":\"x$>\"\x7d\x7d", [0x0a], [0x0a, 0x20], .inl rfl,
    by decide +kernel, List.all_eq_true.1 rfl, by decide, List.all_eq_true.1 rfl⟩

def Tape.echoedArray : Reply :=
  ⟨Text.encode "dump\r\n", "[]", [0x20, 0x0a], [], .inr (.inr rfl),
    by decide, List.all_eq_true.1 rfl, by decide, List.all_eq_true.1 rfl⟩

/-- Two replies, the first of them cut inside its string and inside its prompt. -/
def Tape.reads : List (List Bytes) :=
  [[Text.encode "\x7b\"a:b=c\":\x7b\"v\":\"x$>", Text.encode "\"\x7d\x7d\n$", Text.encode ">\n",
      [0x20]],
    [Text.encode "dump\r\n[] \n$>"]]

/-- The host of that console. -/
def Tape.host : Host Tape := ⟨0, [⟨([], Tape.reads), false⟩]⟩

def Tape.connector : Connector := ⟨1, .default, 1000, some ⟨0, ⟨"db", 7199⟩⟩, true⟩

/-- The string that ends like a prompt ends no dump, and the late blank is in no other one. -/
theorem dumps_of_tape :
    (Tape.connector.dumps Tape.console Tape.host [0, 5]).1 =
        [Tape.promptInString.result Tape.console.noJson ⟨"db", 7199⟩,
          Tape.echoedArray.result Tape.console.noJson ⟨"db", 7199⟩] ∧
      (Tape.connector.dumps Tape.console Tape.host [0, 5]).2.1 = Tape.connector ∧
      ((Tape.connector.dumps Tape.console Tape.host [0, 5]).2.2.find? 0).isSome := by
  have hanswers : Answers Tape.console 1000 ([], Tape.reads) []
      [(0, Tape.promptInString), (5, Tape.echoedArray)] :=
    Tape.answers_of_cuts 1000 (.cons (by decide) (.cons (by decide) .nil)) []
  exact dumps_eq_payloads (c := Tape.connector) (s := ⟨0, ⟨"db", 7199⟩⟩) rfl rfl
    (List.forall_mem_nil _) hanswers

end Connector

end BeanGauge
