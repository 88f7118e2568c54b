import Mathlib.Data.List.Induction
import TargetGraph.Message.Stream
import TargetGraph.Proofs.Json.Completeness

set_option relaxedAutoImplicit false
set_option autoImplicit false

/-!
# Where the messages of a query output stand

A query output that is read to its end consists of messages with spaces, or nothing, between them,
and it does so in one way only: every message tells with its own bytes where it ends. So an output
may be put behind another one, and one that is cut off keeps the messages that it has in full.

## Main definitions

* `TargetGraph.Message.Spells` — bytes write a message.
* `TargetGraph.PlacedMessage`, `TargetGraph.Framed` — a message and its place, and the messages that
  bytes consist of.
* `TargetGraph.CutsMessage`, `TargetGraph.endedBy`, `TargetGraph.endOfLast` — where an output is cut
  off, the messages before that, and where these end.
* `TargetGraph.Stream.after` — a query output that is read behind another one.

## Main results

* `TargetGraph.Framed.unique` — bytes consist of messages in one way.
* `TargetGraph.Stream.Follows.feed` — what is read so far consists of the messages so far, and the
  beginning of one more.
* `TargetGraph.Stream.feed_after` — behind another query output, one is read as it is alone.
* `TargetGraph.decodeMessages_framing` — joined and cut query outputs.
-/

namespace TargetGraph

open Json

/-! ### Messages and their places -/

/-- Bytes write a message. -/
def Message.Spells (message : Message) (bytes : List UInt8) : Prop :=
  ∃ v, Writes (.value v) bytes ∧ Message.ofRaw? v = some message

/-- A message of a query output, and where in it the message stands. -/
structure PlacedMessage where
  /-- The offset of its first byte. -/
  start : Nat
  /-- The offset behind its last byte. -/
  stop : Nat
  /-- The message. -/
  message : Message

/-- Bytes consist of messages with spaces, or nothing, around them. The first byte has the offset
`n`. -/
inductive Framed : Nat → List UInt8 → List PlacedMessage → Prop where
  /-- There is no message. -/
  | spaces {n : Nat} {g : List UInt8} (hg : Gap g) : Framed n g []
  /-- There is a message, and what comes behind it. -/
  | message {n : Nat} {g t rest : List UInt8} {m : Message} {placed : List PlacedMessage}
    (hg : Gap g) (ht : m.Spells t) (hrest : Framed (n + g.length + t.length) rest placed) :
    Framed n (g ++ (t ++ rest)) (⟨n + g.length, n + g.length + t.length, m⟩ :: placed)

/-- The end of the last one of some messages; `n` if there is none. -/
def endOfLast (n : Nat) : List PlacedMessage → Nat
  | [] => n
  | placed :: rest => endOfLast placed.stop rest

/-- The messages that end at an offset or before it. -/
def endedBy (offset : Nat) (placed : List PlacedMessage) : List PlacedMessage :=
  placed.filter fun p => p.stop ≤ offset

/-- An offset is inside a message, behind its first byte and before its end. -/
def CutsMessage (offset : Nat) (placed : List PlacedMessage) : Prop :=
  ∃ p ∈ placed, p.start < offset ∧ offset < p.stop

instance (offset : Nat) (placed : List PlacedMessage) : Decidable (CutsMessage offset placed) :=
  inferInstanceAs (Decidable (∃ p ∈ placed, p.start < offset ∧ offset < p.stop))

variable {n : Nat} {b : UInt8} {a g g' t t' u rest rest' : List UInt8} {v : Raw} {m m' : Message}
  {placed other : List PlacedMessage} {s first second : Stream} {scanner scanner' : Scanner}

/-- What starts a message is no space. -/
theorem not_space_of_start (h : Scanner.start? b = some scanner) : isSpace b = false := by
  unfold Scanner.start? at h
  split at h
  · next hb =>
    rw [eq_of_beq hb]
    rfl
  · split at h
    · next hb =>
      rw [eq_of_beq hb]
      rfl
    · cases h

/-- A message is an array or an object, which a scanner takes in from its first byte to its last
(`feed_of_writes`). No other value is a message. -/
theorem Message.Spells.exists_scanner (h : m.Spells t) :
    ∃ b rest scanner v, t = b :: rest ∧ Scanner.start? b = some scanner ∧
      (Progress.reading scanner).feed rest = .complete v ∧ Message.ofRaw? v = some m := by
  obtain ⟨v, hwrites, hmessage⟩ := h
  have hfirst : ∃ b rest scanner, t = b :: rest ∧ Scanner.start? b = some scanner := by
    cases hwrites with
    | null | yes | no | number | text => cases hmessage
    | emptyArray | array | emptyObject | object => exact ⟨_, _, _, rfl, rfl⟩
  obtain ⟨b, rest, scanner, rfl, hstart⟩ := hfirst
  exact ⟨b, rest, scanner, v, rfl, hstart, feed_of_writes hwrites hstart, hmessage⟩

/-- A message has bytes. -/
theorem Message.Spells.length_pos (h : m.Spells t) : 0 < t.length := by
  obtain ⟨b, rest, _, _, rfl, _⟩ := h.exists_scanner
  exact Nat.zero_lt_succ _

/-- Of two messages that begin with the same bytes, none is longer than the other.

**Proof sketch.** One scanner takes in both. It is complete behind the shorter one, and then nothing
may follow (`feed_complete_eq_complete`). -/
theorem Message.Spells.prefix_eq (h : m.Spells t) (h' : m'.Spells (t ++ u)) : u = [] ∧ m = m' := by
  obtain ⟨b, rest, scanner, v, rfl, hstart, hfeed, hmessage⟩ := h.exists_scanner
  obtain ⟨b', rest', scanner', v', hbytes, hstart', hfeed', hmessage'⟩ := h'.exists_scanner
  obtain ⟨rfl, rfl⟩ := List.cons_eq_cons.mp hbytes
  rw [hstart] at hstart'
  cases hstart'
  have hrest : ((Progress.reading scanner).feed rest).feed u = .complete v' :=
    feed_append.symm.trans hfeed'
  rw [hfeed] at hrest
  obtain ⟨rfl, rfl⟩ := feed_complete_eq_complete hrest
  exact ⟨rfl, Option.some.inj (hmessage.symm.trans hmessage')⟩

/-- The spaces before a message end where the message begins. -/
theorem takeWhile_gap (hg : Gap g) (ht : m.Spells t) :
    (g ++ (t ++ rest)).takeWhile isSpace = g := by
  obtain ⟨b, more, scanner, _, rfl, hstart, _⟩ := ht.exists_scanner
  rw [List.takeWhile_append_of_pos hg, List.cons_append,
    List.takeWhile_cons_of_neg (by rw [not_space_of_start hstart]; nofun), List.append_nil]

/-- Where there are only spaces there is no message. -/
theorem not_spells_of_gap (h : Gap (g ++ (t ++ rest))) : ¬m.Spells t := by
  intro ht
  obtain ⟨b, more, scanner, _, rfl, hstart, _⟩ := ht.exists_scanner
  have hb : isSpace b = true := h b (by simp)
  rw [not_space_of_start hstart] at hb
  cases hb

/-- **Bytes consist of messages in one way.**

**Proof sketch.** By induction on the first list of messages. The spaces before the first message
are all the spaces at the start (`takeWhile_gap`), so both lists begin it at the same byte. Of the
two first messages one is the beginning of the other, so they are the same
(`Message.Spells.prefix_eq`), and the rest is the induction hypothesis. -/
theorem Framed.unique (h : Framed n a placed) (h' : Framed n a other) : other = placed := by
  induction h generalizing other with
  | spaces hgap =>
    cases h' with
    | spaces => rfl
    | message _ ht => exact absurd ht (not_spells_of_gap hgap)
  | @message n g t rest m placed hg ht _ ih =>
    generalize hbytes : g ++ (t ++ rest) = bytes at h'
    cases h' with
    | spaces hgap => exact absurd ht (not_spells_of_gap (hbytes ▸ hgap))
    | @message _ g' t' rest' m' placed' hg' ht' hrest' =>
      obtain rfl : g = g' := by
        exact (takeWhile_gap hg ht).symm.trans (by rw [hbytes, takeWhile_gap hg' ht'])
      obtain ⟨rfl, rfl, rfl⟩ : t = t' ∧ m = m' ∧ rest = rest' := by
        rcases List.append_eq_append_iff.mp (List.append_cancel_left hbytes) with
          ⟨u, rfl, rfl⟩ | ⟨u, rfl, rfl⟩
        · obtain ⟨rfl, rfl⟩ := ht.prefix_eq ht'
          simp
        · obtain ⟨rfl, rfl⟩ := ht'.prefix_eq ht
          simp
      rw [ih hrest']

/-- Spaces may follow. -/
theorem Framed.append_gap (h : Framed n a placed) (hg : Gap g) : Framed n (a ++ g) placed := by
  induction h with
  | spaces hspaces => exact .spaces (List.forall_mem_append.mpr ⟨hspaces, hg⟩)
  | message hbefore ht _ ih =>
    rw [List.append_assoc, List.append_assoc]
    exact .message hbefore ht ih

/-- One more message may follow. -/
theorem Framed.append_message (h : Framed n a placed) (ht : m.Spells t) :
    Framed n (a ++ t) (placed ++ [⟨n + a.length, n + a.length + t.length, m⟩]) := by
  induction h with
  | spaces hspaces => simpa using Framed.message hspaces ht (.spaces gap_nil)
  | message hbefore ht' _ ih =>
    simpa [Nat.add_assoc] using Framed.message hbefore ht' ih

/-- Messages stand behind the offset of the first byte, and are not empty.

**Proof sketch.** By induction on the messages. The first one begins behind the spaces before it and
has bytes (`Message.Spells.length_pos`); the others begin behind its end. -/
theorem Framed.start_lt_stop (h : Framed n a placed) :
    ∀ p ∈ placed, n ≤ p.start ∧ p.start < p.stop := by
  induction h with
  | spaces => nofun
  | message _ ht _ ih =>
    have hpos := ht.length_pos
    intro p hp
    rcases List.mem_cons.mp hp with rfl | hp
    · exact ⟨by simp, by simp; omega⟩
    · have := ih p hp
      omega

namespace Stream

/-! ### Reading a message -/

/-- Bytes are read one part after another. -/
theorem feed_append : s.feed (t ++ u) = (s.feed t).feed u :=
  List.foldl_append

/-- Between messages, spaces are passed over, by induction on the spaces. -/
theorem feed_gap (hs : s.phase = .between) (hg : Gap g) :
    s.feed g = { s with position := s.position + g.length, phase := .between } := by
  induction g generalizing s with
  | nil =>
    rw [← hs]
    rfl
  | cons b rest ih =>
    have hstep : s.step b = { s with position := s.position + 1, phase := .between } := by
      simp [step, hs, hg b (List.mem_cons_self ..)]
    show (s.step b).feed rest = _
    rw [hstep, ih rfl fun d hd => hg d (List.mem_cons_of_mem _ hd), List.length_cons,
      Nat.add_right_comm]
    rfl

/-- A message goes on.

**Proof sketch.** By induction on the bytes from their end: before the last of them the message was
going on already (`exists_reading_of_feed`). -/
theorem feed_reading (hs : s.phase = .inside scanner)
    (h : (Progress.reading scanner).feed t = .reading scanner') :
    s.feed t = { s with position := s.position + t.length, phase := .inside scanner' } := by
  induction t using List.reverseRecOn generalizing scanner' with
  | nil =>
    cases h
    rw [← hs]
    rfl
  | append_singleton t b ih =>
    obtain ⟨next, hnext⟩ := exists_reading_of_feed (by rw [h]; nofun) (List.cons_ne_nil b [])
    rw [Json.feed_append, hnext] at h
    have hstep : next.step b = .reading scanner' := h
    rw [feed_append, ih hnext]
    simp [feed, step, hstep, Nat.add_assoc]

/-- A message is complete with its last byte, and goes on before that (`feed_reading`). -/
theorem feed_complete (hs : s.phase = .inside scanner) (ht : t ≠ [])
    (h : (Progress.reading scanner).feed t = .complete v) (hmessage : Message.ofRaw? v = some m) :
    s.feed t = ⟨m :: s.messages, s.position + t.length, s.position + t.length, .between⟩ := by
  obtain ⟨t, b, rfl⟩ := (List.eq_nil_or_concat' t).resolve_left ht
  obtain ⟨next, hnext⟩ := exists_reading_of_feed (by rw [h]; nofun) (List.cons_ne_nil b [])
  rw [Json.feed_append, hnext] at h
  have hstep : next.step b = .complete v := h
  rw [feed_append, feed_reading hs hnext]
  simp [feed, step, accept, hstep, hmessage, Nat.add_assoc]

/-- What starts a message leads into it. -/
theorem step_start (hs : s.phase = .between) (hstart : Scanner.start? b = some scanner) :
    s.step b = { s with position := s.position + 1, phase := .inside scanner } := by
  simp [step, hs, not_space_of_start hstart, hstart]

/-- A whole message is read.

**Proof sketch.** The spaces before it are passed over (`feed_gap`), its first byte leads into it
(`step_start`), and its last byte completes it (`feed_complete`). -/
theorem feed_message (hs : s.phase = .between) (hg : Gap g) (ht : m.Spells t) :
    s.feed (g ++ t) = ⟨m :: s.messages, s.position + g.length + t.length,
      s.position + g.length + t.length, .between⟩ := by
  obtain ⟨b, rest, scanner, v, rfl, hstart, hfeed, hmessage⟩ := ht.exists_scanner
  have hrest : rest ≠ [] := by
    rintro rfl
    cases hfeed
  rw [feed_append, feed_gap hs hg]
  show (step _ b).feed rest = _
  rw [step_start rfl hstart, feed_complete rfl hrest hfeed hmessage]
  simp [Nat.add_assoc, Nat.add_comm 1]

/-- A message that is cut off is neither read nor passed over.

**Proof sketch.** The bytes up to the cut are read, and the message is still going on there
(`exists_reading_of_feed`); so it ends with the error, at the end of the last message before. -/
theorem finish_feed_cut (hs : s.phase = .between) (hg : Gap g) (h : m.Spells (t ++ u)) (ht : t ≠ [])
    (hu : u ≠ []) : (s.feed (g ++ t)).finish = .error s.boundary := by
  obtain ⟨b, rest, scanner, v, hbytes, hstart, hfeed, _⟩ := h.exists_scanner
  obtain ⟨d, t, rfl⟩ := List.exists_cons_of_ne_nil ht
  obtain ⟨rfl, rfl⟩ := List.cons_eq_cons.mp hbytes
  have hread : (Progress.reading scanner).feed (t ++ u) ≠ .malformed := by
    intro hmalformed
    cases hfeed.symm.trans hmalformed
  obtain ⟨next, hnext⟩ := exists_reading_of_feed hread hu
  rw [feed_append, feed_gap hs hg]
  show ((step _ d).feed t).finish = _
  rw [step_start rfl hstart, feed_reading rfl hnext]
  rfl

/-! ### Reading a whole query output -/

/-- **Bytes that consist of messages are read**, whatever was read before. By induction on the
messages, with `feed_message` for the first of them. -/
theorem feed_framed (h : Framed n a placed) (hs : s.phase = .between) (hposition : s.position = n) :
    s.feed a = ⟨(placed.map PlacedMessage.message).reverse ++ s.messages,
      endOfLast s.boundary placed, n + a.length, .between⟩ := by
  induction h generalizing s with
  | spaces hg =>
    rw [feed_gap hs hg, hposition]
    rfl
  | message hg ht _ ih =>
    rw [← List.append_assoc, feed_append, feed_message hs hg ht, ih rfl (by rw [hposition])]
    simp [endOfLast, hposition, Nat.add_assoc]

/-- Some bytes are read: they consist of the messages so far, and of the beginning of one more. -/
def Follows (s : Stream) (bytes : List UInt8) : Prop :=
  match s.phase with
  | .between => ∃ placed, Framed 0 bytes placed ∧
      s.messages = (placed.map PlacedMessage.message).reverse
  | .inside scanner => ∃ before text placed, bytes = before ++ text ∧ Framed 0 before placed ∧
      Reached scanner text ∧ s.messages = (placed.map PlacedMessage.message).reverse
  | .failed => True

/-- One more byte is read between messages.

**Proof sketch.** A space stands behind the messages so far (`Framed.append_gap`). What starts a
message is the beginning of one more (`reached_start`), and any other byte makes reading fail. -/
theorem follows_step_between (hs : s.phase = .between) (hplaced : Framed 0 a placed)
    (hmessages : s.messages = (placed.map PlacedMessage.message).reverse) (b : UInt8) :
    (s.step b).Follows (a ++ [b]) := by
  unfold Stream.step
  rw [hs]
  dsimp only
  split
  · next hspace => exact ⟨placed, hplaced.append_gap (by simpa [Gap] using hspace), hmessages⟩
  · split
    · next scanner hstart => exact ⟨a, [b], placed, rfl, hplaced, reached_start hstart, hmessages⟩
    · trivial

/-- One more byte is read inside a message.

**Proof sketch.** The message goes on, or this is its last byte: then the scanner has read all of it
(`Reached.step`), and it comes behind the messages so far (`Framed.append_message`). -/
theorem follows_step_inside {before text : List UInt8} (hs : s.phase = .inside scanner)
    (hplaced : Framed 0 before placed) (hreached : Reached scanner text)
    (hmessages : s.messages = (placed.map PlacedMessage.message).reverse) (b : UInt8) :
    (s.step b).Follows (before ++ (text ++ [b])) := by
  have hsound := hreached.step b
  unfold Stream.step
  rw [hs]
  dsimp only
  split
  · next next hnext =>
    rw [hnext] at hsound
    exact ⟨before, _, placed, rfl, hplaced, hsound, hmessages⟩
  · next v hnext =>
    rw [hnext] at hsound
    unfold accept
    split
    · next m hmessage =>
      exact ⟨_, hplaced.append_message ⟨v, hsound, hmessage⟩, by simp [hmessages]⟩
    · trivial
  · trivial

/-- **One more byte** is read: `follows_step_between` between messages, `follows_step_inside` inside
one. -/
theorem Follows.step (h : s.Follows a) (b : UInt8) : (s.step b).Follows (a ++ [b]) := by
  unfold Follows at h
  split at h
  · next hs =>
    obtain ⟨placed, hplaced, hmessages⟩ := h
    exact follows_step_between hs hplaced hmessages b
  · next scanner hs =>
    obtain ⟨before, text, placed, rfl, hplaced, hreached, hmessages⟩ := h
    rw [List.append_assoc]
    exact follows_step_inside hs hplaced hreached hmessages b
  · next hs =>
    unfold Stream.step
    rw [hs]
    trivial

/-- **Some more bytes** are read. -/
theorem Follows.feed (h : s.Follows a) (bytes : List UInt8) :
    (s.feed bytes).Follows (a ++ bytes) := by
  induction bytes generalizing s a with
  | nil => rwa [List.append_nil]
  | cons b rest ih =>
    rw [List.append_cons]
    exact ih (h.step b)

end Stream

/-- **What is read to its end consists of messages**, and these are what is read.

**Proof sketch.** What has been read consists of the messages so far, as the reader ends between two
of them (`Stream.Follows.feed`). The other way this is `Stream.feed_framed`. -/
theorem decodeMessages_eq_ok_iff {messages : List Message} :
    decodeMessages a = .ok messages ↔
      ∃ placed, Framed 0 a placed ∧ placed.map PlacedMessage.message = messages := by
  constructor
  · intro h
    have hstart : ({} : Stream).Follows [] := ⟨[], .spaces gap_nil, rfl⟩
    have hfollows := hstart.feed a
    unfold decodeMessages Stream.finish at h
    unfold Stream.Follows at hfollows
    split at h
    · next hs =>
      rw [hs] at hfollows
      obtain ⟨placed, hplaced, hmessages⟩ := hfollows
      refine ⟨placed, hplaced, ?_⟩
      rw [← Except.ok.inj h, hmessages, List.reverse_reverse]
    · cases h
    · cases h
  · rintro ⟨placed, hplaced, rfl⟩
    rw [decodeMessages, Stream.feed_framed hplaced rfl rfl]
    simp [Stream.finish]

namespace Stream

/-! ### Joined query outputs -/

/-- A query output that is read behind another one. -/
def after (first second : Stream) : Stream where
  messages := second.messages ++ first.messages
  boundary := if second.boundary = 0 then first.boundary else first.position + second.boundary
  position := first.position + second.position
  phase := second.phase

/-- Behind another query output, a byte is read as it is alone: what a byte does depends on the
phase only, and the phase is the same. -/
theorem step_after : (first.after second).step b = first.after (second.step b) := by
  have hphase : (first.after second).phase = second.phase := rfl
  unfold step
  rw [hphase]
  cases second.phase with
  | failed => rfl
  | between =>
    dsimp only
    split
    · rfl
    · split <;> rfl
  | inside scanner =>
    dsimp only
    split
    · rfl
    · next v _ =>
      unfold accept
      split <;> rfl
    · rfl

/-- **Behind another query output, one is read as it is alone**, byte by byte (`step_after`). -/
theorem feed_after : (first.after second).feed a = first.after (second.feed a) := by
  induction a generalizing second with
  | nil => rfl
  | cons b rest ih =>
    show ((first.after second).step b).feed rest = first.after ((second.step b).feed rest)
    rw [step_after, ih]

/-- What is read behind messages says what it says alone. The offset where it goes wrong is counted
from the start, and the end of the last message before it is never lost.

**Proof sketch.** A reader between two messages is one from the start behind what it has read, so
this is `feed_after`, and the three ways in which reading can end. -/
theorem finish_feed (hs : s.phase = .between) :
    (s.feed a).finish = match decodeMessages a with
      | .ok messages => .ok (s.messages.reverse ++ messages)
      | .error k => .error (if k = 0 then s.boundary else s.position + k) := by
  have hstart : s.after {} = s := by
    rw [after, if_pos rfl, ← hs]
    rfl
  have hfeed : s.feed a = s.after (({} : Stream).feed a) := by
    rw [← feed_after, hstart]
  rw [hfeed, decodeMessages]
  obtain ⟨messages, boundary, position, phase⟩ := ({} : Stream).feed a
  cases phase with
  | between => simp [finish, after]
  | inside | failed => rfl

end Stream

/-! ### Cut query outputs -/

/-- None of some messages ends at an offset or before it if all of them end behind it. -/
theorem endedBy_eq_nil (h : ∀ p ∈ placed, n < p.stop) : endedBy n placed = [] :=
  List.filter_eq_nil_iff.mpr fun p hp => by simpa using h p hp

variable {p : PlacedMessage}

/-- The first of some messages is among those that end in time if it does. -/
theorem endedBy_cons (h : p.stop ≤ n) : endedBy n (p :: placed) = p :: endedBy n placed :=
  List.filter_cons_of_pos (decide_eq_true h)

/-- An offset is not inside a message that ends there or before. -/
theorem cutsMessage_cons (h : p.stop ≤ n) : CutsMessage n (p :: placed) ↔ CutsMessage n placed := by
  rw [CutsMessage, List.exists_mem_cons_iff]
  exact or_iff_right fun hin => absurd hin.2 (Nat.not_lt.mpr h)

/-- An offset is inside none of some messages that all begin there or behind it. -/
theorem not_cutsMessage (h : ∀ p ∈ placed, n ≤ p.start) : ¬CutsMessage n placed :=
  fun ⟨p, hp, hin⟩ => absurd hin.1 (Nat.not_lt.mpr (h p hp))

/-- Of three parts, a prefix ends in the first, inside the second, or behind it.

**Proof sketch.** Of two beginnings of one list, one begins the other. So the prefix begins the
first part, or it is the first part and more. In the latter case the same is said of what is more
and the second part; the two ends of the second part count for the first part and for the third. -/
theorem prefix_cases (h : t <+: g ++ (u ++ rest)) :
    t <+: g ∨ (∃ c d, t = g ++ c ∧ u = c ++ d ∧ c ≠ [] ∧ d ≠ []) ∨
      ∃ c, t = (g ++ u) ++ c ∧ c <+: rest := by
  rcases List.prefix_or_prefix_of_prefix h (List.prefix_append ..) with ht | ⟨c, rfl⟩
  · exact .inl ht
  · have hc := (List.prefix_append_right_inj g).mp h
    rcases List.prefix_or_prefix_of_prefix hc (List.prefix_append ..) with ⟨d, rfl⟩ | ⟨d, rfl⟩
    · by_cases hempty : c = []
      · exact .inl (by simp [hempty])
      · by_cases hwhole : d = []
        · exact .inr (.inr ⟨[], by simp [hwhole], List.nil_prefix⟩)
        · exact .inr (.inl ⟨c, d, rfl, rfl, hempty, hwhole⟩)
    · exact .inr (.inr ⟨d, (List.append_assoc ..).symm, (List.prefix_append_right_inj u).mp hc⟩)

/-- **The first bytes of messages** hold the ones that end in time, unless they end inside one.

**Proof sketch.** By induction on the messages, with `prefix_cases` for the first one. If the bytes
end before it begins, there are only spaces, and all messages begin too late (`not_cutsMessage`). If
they end inside it, it is cut off (`finish_feed_cut`). If they end behind it, it is read
(`feed_message`), and the induction hypothesis says what comes of the rest. -/
theorem Stream.finish_feed_prefix (h : Framed n a placed) (hs : s.phase = .between)
    (hposition : s.position = n) (hbegin : t <+: a) :
    (s.feed t).finish =
      if CutsMessage (n + t.length) placed then
        .error (endOfLast s.boundary (endedBy (n + t.length) placed))
      else
        .ok (s.messages.reverse ++ (endedBy (n + t.length) placed).map PlacedMessage.message) := by
  induction h generalizing s t with
  | @spaces n g hg =>
    have hgap : Gap t := fun d hd => hg d (hbegin.subset hd)
    rw [feed_gap hs hgap]
    simp [finish, CutsMessage, endedBy]
  | @message n g u rest m placed hg hu hrest ih =>
    have hbehind := hrest.start_lt_stop
    have hpos := hu.length_pos
    rcases prefix_cases hbegin with ht | ⟨c, d, rfl, rfl, hc, hd⟩ | ⟨c, rfl, hc⟩
    · -- no message begins in time
      have hgap : Gap t := fun d hd => hg d (ht.subset hd)
      have hlength := ht.length_le
      have hlate :
          ∀ p ∈ (⟨n + g.length, n + g.length + u.length, m⟩ :: placed : List PlacedMessage),
          n + t.length ≤ p.start ∧ p.start < p.stop := by
        rw [List.forall_mem_cons]
        exact ⟨by dsimp only; omega, fun p hp => by have := hbehind p hp; omega⟩
      rw [feed_gap hs hgap, if_neg (not_cutsMessage fun p hp => (hlate p hp).1),
        endedBy_eq_nil fun p hp => Nat.lt_of_le_of_lt (hlate p hp).1 (hlate p hp).2]
      simp [finish]
    · -- the cut is inside the first message
      have hc' := List.length_pos_iff.mpr hc
      have hd' := List.length_pos_iff.mpr hd
      simp only [List.length_append] at hbehind ⊢
      have hlate : ∀ p ∈ (⟨n + g.length, n + g.length + (c.length + d.length), m⟩ :: placed :
          List PlacedMessage), n + (g.length + c.length) < p.stop := by
        rw [List.forall_mem_cons]
        exact ⟨by dsimp only; omega, fun p hp => by have := hbehind p hp; omega⟩
      rw [finish_feed_cut hs hg hu hc hd, endedBy_eq_nil hlate,
        if_pos ⟨_, List.mem_cons_self .., by dsimp only; omega, hlate _ (List.mem_cons_self ..)⟩]
      rfl
    · -- the first message ends in time
      have hlength : n + ((g ++ u) ++ c).length = n + g.length + u.length + c.length := by
        simp [Nat.add_assoc]
      have hstop : (⟨n + g.length, n + g.length + u.length, m⟩ : PlacedMessage).stop ≤
          n + g.length + u.length + c.length := Nat.le_add_right ..
      rw [feed_append, feed_message hs hg hu, ih rfl (by rw [hposition]) hc, hlength,
        endedBy_cons hstop]
      simp only [cutsMessage_cons hstop]
      simp [endOfLast, hposition]

/-- **Joined and cut query outputs.** A query output that is read to its end consists of messages,
in one way only, and these are what is read.

An output behind it is read as it is alone: its messages come behind the first ones, and the offset
where it goes wrong is counted from the start of the two. If it goes wrong before its first message,
the offset is the end of the last message before it. It makes no difference how many spaces there
are between the two.

If the output is cut off inside a message, the offset is the end of the last message before the cut;
otherwise the messages before the cut are read. So a message that is cut off is never read and never
passed over.

**Proof sketch.** What is read so far consists of the messages so far and of the beginning of one
more (`Stream.Follows.feed`), and the scanner takes in a message exactly up to its last byte
(`Message.Spells.exists_scanner`), so no message is the beginning of another one. A reader between
two messages differs from one at the start only in what it has read (`Stream.feed_after`). -/
theorem decodeMessages_framing (a : List UInt8) (messages : List Message)
    (h : decodeMessages a = .ok messages) :
    ∃ placed, Framed 0 a placed ∧ (∀ other, Framed 0 a other → other = placed) ∧
      placed.map PlacedMessage.message = messages ∧
      (∀ b, decodeMessages (a ++ b) = match decodeMessages b with
        | .ok more => .ok (messages ++ more)
        | .error offset => .error (if offset = 0 then endOfLast 0 placed else a.length + offset)) ∧
      (∀ gap b more, Gap gap → decodeMessages b = .ok more →
        decodeMessages (a ++ gap ++ b) = .ok (messages ++ more)) ∧
      ∀ t, t <+: a → decodeMessages t =
        if CutsMessage t.length placed then .error (endOfLast 0 (endedBy t.length placed))
        else .ok ((endedBy t.length placed).map PlacedMessage.message) := by
  obtain ⟨placed, hplaced, rfl⟩ := decodeMessages_eq_ok_iff.mp h
  have hread := Stream.feed_framed (s := {}) hplaced rfl rfl
  have hbehind : ∀ b, decodeMessages (a ++ b) = match decodeMessages b with
      | .ok more => .ok (placed.map PlacedMessage.message ++ more)
      | .error offset => .error (if offset = 0 then endOfLast 0 placed else a.length + offset) := by
    intro b
    rw [decodeMessages, Stream.feed_append, hread, Stream.finish_feed rfl]
    simp
  refine ⟨placed, hplaced, fun other hother => hplaced.unique hother, rfl, hbehind, ?_, ?_⟩
  · intro gap b more hgap hmore
    have hb : decodeMessages (gap ++ b) = .ok more := by
      rw [decodeMessages, Stream.feed_append, Stream.feed_gap rfl hgap, Stream.finish_feed rfl,
        hmore]
      rfl
    rw [List.append_assoc, hbehind, hb]
  · intro t ht
    rw [decodeMessages, Stream.finish_feed_prefix hplaced rfl rfl ht]
    simp

/-- Two messages with spaces between them, an object and an array. -/
def messagePair : List UInt8 :=
  Text.utf8 "\x7b\"type\":\"PACKAGE_GROUP\"\x7d \n[\"SOURCE_FILE\",null,[\"//a:b\",null],null]"

/-- Behind the two messages, the same ones are read once more; and if the last one is cut off there,
the offset is the end of the third one. -/
theorem decodeMessages_messagePair :
    decodeMessages (messagePair ++ messagePair) =
        .ok [.other, .sourceFile ⟨"//a:b", none⟩, .other, .sourceFile ⟨"//a:b", none⟩] ∧
      decodeMessages (messagePair ++ messagePair.take 40) = .error (messagePair.length + 24) := by
  have hpair : decodeMessages messagePair = .ok [.other, .sourceFile ⟨"//a:b", none⟩] := by
    decide +kernel
  have hcut : decodeMessages (messagePair.take 40) = .error 24 := by
    decide +kernel
  obtain ⟨placed, _, _, _, hbehind, _⟩ := decodeMessages_framing messagePair _ hpair
  have hwhole := hbehind messagePair
  have hpart := hbehind (messagePair.take 40)
  rw [hpair] at hwhole
  rw [hcut] at hpart
  exact ⟨hwhole, hpart⟩

end TargetGraph
