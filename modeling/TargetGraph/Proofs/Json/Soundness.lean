import Mathlib.Data.List.Basic
import TargetGraph.Proofs.Json.Grammar

set_option relaxedAutoImplicit false
set_option autoImplicit false

/-!
# What a scanner takes in

A scanner that has not refused anything yet is in the middle of what the grammar lets bytes write.
So a value that it completes is written by all the bytes that it was fed.

## Main definitions

* `TargetGraph.Json.Awaits` — bytes are the beginning of a document where a value comes next.
* `TargetGraph.Json.Reached` — bytes lead a scanner to where it is.
* `TargetGraph.Json.Progress.Sound` — bytes lead to what is made of a scanner.

## Main results

* `TargetGraph.Json.Reached.step`, `TargetGraph.Json.Progress.Sound.feed` — one more byte, and some
  more bytes.

## Design

What led to a scanner is said from the outside in: `Awaits` goes through the open containers and
says what each of them has in it so far, and `Reached` adds what the scanner is in the middle of. A
byte changes only the second, but for the bytes that begin and end containers, commas and colons.
Each state of a scanner has its own lemma, so that a change of one leaves the others alone.
-/

namespace TargetGraph.Json

/-! ### Texts -/

/-- Bytes are the beginning of a text, with the last escape gone so far. -/
def Escape.Begun : Escape → List UInt8 → Prop
  | .outside, t => TextBody t
  | .letter, t => ∃ s, TextBody s ∧ t = s ++ [0x5c]
  | .digits more, t => ∃ s digits, TextBody s ∧ t = s ++ 0x5c :: 0x75 :: digits ∧
      digits.length + more = 3 ∧ ∀ b ∈ digits, (hexValue? b).isSome

variable {b : UInt8} {s t g bytes : List UInt8} {v : Raw}

/-- Outside of escapes a text goes on with a byte that stands for itself, or with a backslash.

**Proof sketch.** A control character is refused and a quote is not looked at here. A backslash
begins an escape behind the text; any other byte is a piece of it. -/
theorem Escape.begun_of_outside {escape : Escape} (h : TextBody t) (hquote : b ≠ 0x22)
    (hnext : Escape.outside.next? b = some escape) : escape.Begun (t ++ [b]) := by
  simp only [Escape.next?] at hnext
  split at hnext
  · cases hnext
  · next hcontrol =>
    split at hnext
    · next hbackslash =>
      cases hnext
      rw [beq_iff_eq] at hbackslash
      exact ⟨t, h, by rw [hbackslash]⟩
    · next hbackslash =>
      cases hnext
      rw [beq_iff_eq] at hbackslash
      exact .append h (.plain (UInt8.not_lt.mp hcontrol) hquote hbackslash)

/-- Behind a backslash there is a letter that ends the escape, or the `u` before four digits.

**Proof sketch.** By the byte. The `u` begins an escape that has no digit yet. A letter makes a
piece of a text together with the backslash before it. Any other byte is refused. -/
theorem Escape.begun_of_letter {escape : Escape} (hs : TextBody s)
    (hnext : Escape.letter.next? b = some escape) : escape.Begun (s ++ [0x5c] ++ [b]) := by
  simp only [Escape.next?] at hnext
  split at hnext
  · next hu =>
    cases hnext
    rw [beq_iff_eq] at hu
    exact ⟨s, [], hs, by simp [hu], rfl, by simp⟩
  · split at hnext
    · next hletter =>
      cases hnext
      rw [List.append_assoc]
      exact .append hs (.letter hletter)
    · cases hnext

/-- Among the digits of an escape there is one more of them, and the fourth ends the escape.

**Proof sketch.** The digits so far and the ones that are asked for are always three besides this
one. If none is asked for behind it, there are four digits now, which make a piece of a text;
otherwise one fewer is asked for. -/
theorem Escape.begun_of_digits {escape : Escape} {digits : List UInt8} {more : Nat}
    (hs : TextBody s) (hlength : digits.length + more = 3)
    (hdigits : ∀ d ∈ digits, (hexValue? d).isSome)
    (hnext : (Escape.digits more).next? b = some escape) :
    escape.Begun (s ++ 0x5c :: 0x75 :: digits ++ [b]) := by
  simp only [Escape.next?] at hnext
  split at hnext
  · cases hnext
  · next hb =>
    have hdigits' : ∀ d ∈ digits ++ [b], (hexValue? d).isSome := by
      simpa [or_imp, forall_and, Option.isNone_iff_eq_none, Option.ne_none_iff_isSome] using
        And.intro hdigits (by simpa [Option.isNone_iff_eq_none, Option.ne_none_iff_isSome] using hb)
    cases more with
    | zero =>
      cases hnext
      rw [List.append_assoc]
      exact .append hs (.unit (by simpa using hlength) hdigits')
    | succ more =>
      cases hnext
      refine ⟨s, digits ++ [b], hs, by simp, ?_, hdigits'⟩
      rw [List.length_append, List.length_singleton]
      omega

/-- A text goes on with one more byte, unless it is the quote at its end: what the escape says of
the bytes so far holds with that byte too.

**Proof sketch.** By where in an escape the text is (`begun_of_outside`, `begun_of_letter`,
`begun_of_digits`). A piece is put behind the text only when it is whole; until then the text ends
where its escape began. -/
theorem Escape.Begun.next {e e' : Escape} (h : e.Begun t) (hquote : ¬(e = .outside ∧ b = 0x22))
    (hnext : e.next? b = some e') : e'.Begun (t ++ [b]) := by
  cases e with
  | outside => exact begun_of_outside h (fun hb => hquote ⟨rfl, hb⟩) hnext
  | letter =>
    obtain ⟨s, hs, rfl⟩ := h
    exact begun_of_letter hs hnext
  | digits more =>
    obtain ⟨s, digits, hs, rfl, hlength, hdigits⟩ := h
    exact begun_of_digits hs hlength hdigits hnext

/-! ### Numbers -/

/-- Bytes are the beginning of a number up to one of its parts. -/
def NumberPart.Begun : NumberPart → List UInt8 → Prop
  | .minus, t => t = [0x2d]
  | .zero, t => ∃ sign, t = sign ++ [0x30] ∧ (sign = [] ∨ sign = [0x2d])
  | .whole, t => ∃ sign digits, t = sign ++ digits ∧ (sign = [] ∨ sign = [0x2d]) ∧
      Digits digits ∧ digits.head? ≠ some 0x30
  | .point, t => ∃ whole, WholeText whole ∧ t = whole ++ [0x2e]
  | .fraction, t => ∃ whole digits, WholeText whole ∧ Digits digits ∧ t = whole ++ 0x2e :: digits
  | .exponent, t => ∃ whole fraction e, WholeText whole ∧ FractionText fraction ∧ IsE e ∧
      t = whole ++ fraction ++ [e]
  | .sign, t => ∃ whole fraction e sign, WholeText whole ∧ FractionText fraction ∧ IsE e ∧
      PowerSign sign ∧ t = whole ++ fraction ++ e :: sign
  | .power, t => ∃ whole fraction e sign digits, WholeText whole ∧ FractionText fraction ∧ IsE e ∧
      PowerSign sign ∧ Digits digits ∧ t = whole ++ fraction ++ e :: (sign ++ digits)

/-- One digit is some digits. -/
theorem digits_singleton (h : isDigit b = true) : Digits [b] :=
  ⟨List.cons_ne_nil _ _, by simpa using h⟩

/-- Digits go on with one more. -/
theorem Digits.concat (ht : Digits t) (h : isDigit b = true) : Digits (t ++ [b]) := by
  refine ⟨by simp, fun d hd => ?_⟩
  rcases List.mem_append.mp hd with hd | hd
  · exact ht.2 d hd
  · rwa [List.mem_singleton.mp hd]

/-- A zero, or digits without a leading zero, behind a sign are a whole number. -/
theorem NumberPart.Begun.wholeText {part : NumberPart} (h : part.Begun t)
    (hpart : part = .zero ∨ part = .whole) : WholeText t := by
  rcases hpart with rfl | rfl
  · obtain ⟨sign, rfl, hsign⟩ := h
    exact ⟨sign, _, rfl, hsign, .inl rfl⟩
  · obtain ⟨sign, digits, rfl, hsign, hdigits, hhead⟩ := h
    exact ⟨sign, digits, rfl, hsign, .inr ⟨hdigits, hhead⟩⟩

/-- Behind the minus sign there is a zero, or the first digit of a number without a leading zero.

**Proof sketch.** A zero is a whole number with its sign. Any other digit is the first of those that
a whole number may have, and it is no zero. -/
theorem NumberPart.begun_of_minus {part : NumberPart}
    (hnext : NumberPart.minus.next? b = some part) : part.Begun ([0x2d] ++ [b]) := by
  simp only [NumberPart.next?] at hnext
  split at hnext
  · next hzero =>
    cases hnext
    rw [beq_iff_eq] at hzero
    exact ⟨[0x2d], by rw [hzero], .inr rfl⟩
  · next hzero =>
    obtain ⟨hdigit, hpart⟩ := Option.ite_none_right_eq_some.mp hnext
    cases hpart
    exact ⟨[0x2d], [b], rfl, .inr rfl, digits_singleton hdigit, by simpa using hzero⟩

/-- An `e` may follow a whole number with or without a fraction. -/
theorem NumberPart.begun_exponent (hs : WholeText s) (ht : FractionText t)
    (hb : (b == 0x65 || b == 0x45) = true) : NumberPart.exponent.Begun (s ++ t ++ [b]) := by
  rw [Bool.or_eq_true, beq_iff_eq, beq_iff_eq] at hb
  exact ⟨s, t, b, hs, ht, hb, rfl⟩

/-- A point or an `e` may follow a whole number, whether it is a zero or other digits. -/
theorem NumberPart.begun_of_wholeText {part : NumberPart} (h : WholeText t)
    (hnext : (if b == 0x2e then some NumberPart.point
      else if b == 0x65 || b == 0x45 then some .exponent else none) = some part) :
    part.Begun (t ++ [b]) := by
  split at hnext
  · next hpoint =>
    cases hnext
    rw [beq_iff_eq] at hpoint
    exact ⟨t, h, by rw [hpoint]⟩
  · obtain ⟨he, hpart⟩ := Option.ite_none_right_eq_some.mp hnext
    cases hpart
    simpa using begun_exponent h (.inl rfl) he

/-- A digit may follow an `e`, its sign, and the digits behind these. -/
theorem NumberPart.begun_power {part : NumberPart} {whole fraction sign : List UInt8} {e : UInt8}
    (digits : List UInt8) (hwhole : WholeText whole) (hfraction : FractionText fraction)
    (he : IsE e) (hsign : PowerSign sign) (hdigits : isDigit b = true → Digits (digits ++ [b]))
    (hnext : (if isDigit b then some NumberPart.power else none) = some part) :
    part.Begun (whole ++ fraction ++ e :: (sign ++ digits) ++ [b]) := by
  obtain ⟨hdigit, hpart⟩ := Option.ite_none_right_eq_some.mp hnext
  cases hpart
  exact ⟨whole, fraction, e, sign, digits ++ [b], hwhole, hfraction, he, hsign, hdigits hdigit,
    by simp⟩

/-- A number goes on with one more byte: what its part says of the bytes so far, the part that the
byte leads to says of all of them.

**Proof sketch.** By the part that the number is in. Before the point the digits are a whole number,
behind which the same may follow whether they are a zero or not (`begun_of_wholeText`). The digits
of an exponent may follow its letter, its sign or other digits, in the same way each time
(`begun_power`). -/
theorem NumberPart.Begun.next {part part' : NumberPart} (h : part.Begun t)
    (hnext : part.next? b = some part') : part'.Begun (t ++ [b]) := by
  cases part with
  | minus =>
    obtain rfl := h
    exact begun_of_minus hnext
  | zero => exact begun_of_wholeText (h.wholeText (.inl rfl)) hnext
  | whole =>
    have hwhole := h.wholeText (.inr rfl)
    simp only [NumberPart.next?] at hnext
    split at hnext
    · next hdigit =>
      -- one digit more, and the first of them is no zero still
      cases hnext
      obtain ⟨sign, digits, rfl, hsign, hdigits, hhead⟩ := h
      refine ⟨sign, digits ++ [b], List.append_assoc .., hsign, hdigits.concat hdigit, ?_⟩
      rwa [List.head?_append_of_ne_nil _ hdigits.1]
    · exact begun_of_wholeText hwhole hnext
  | point =>
    obtain ⟨whole, hwhole, rfl⟩ := h
    obtain ⟨hdigit, hpart⟩ := Option.ite_none_right_eq_some.mp hnext
    cases hpart
    exact ⟨whole, [b], hwhole, digits_singleton hdigit, by simp⟩
  | fraction =>
    obtain ⟨whole, digits, hwhole, hdigits, rfl⟩ := h
    simp only [NumberPart.next?] at hnext
    split at hnext
    · next hdigit =>
      cases hnext
      exact ⟨whole, digits ++ [b], hwhole, hdigits.concat hdigit, by simp⟩
    · obtain ⟨he, hpart⟩ := Option.ite_none_right_eq_some.mp hnext
      cases hpart
      exact begun_exponent hwhole (.inr ⟨digits, rfl, hdigits⟩) he
  | exponent =>
    obtain ⟨whole, fraction, e, hwhole, hfraction, he, rfl⟩ := h
    simp only [NumberPart.next?] at hnext
    split at hnext
    · next hsign =>
      cases hnext
      rw [Bool.or_eq_true, beq_iff_eq, beq_iff_eq] at hsign
      refine ⟨whole, fraction, e, [b], hwhole, hfraction, he, ?_, by simp⟩
      exact .inr (hsign.imp (congrArg (List.cons · [])) (congrArg (List.cons · [])))
    · exact begun_power [] hwhole hfraction he (.inl rfl) digits_singleton hnext
  | sign =>
    obtain ⟨whole, fraction, e, sign, hwhole, hfraction, he, hsign, rfl⟩ := h
    rw [← List.append_nil sign]
    exact begun_power [] hwhole hfraction he hsign digits_singleton hnext
  | power =>
    obtain ⟨whole, fraction, e, sign, digits, hwhole, hfraction, he, hsign, hdigits, rfl⟩ := h
    exact begun_power digits hwhole hfraction he hsign hdigits.concat hnext

/-- A number is complete where it may end: behind a zero, or behind digits that are its whole part,
its fraction or its exponent.

**Proof sketch.** By the part. At four of them a number may not end. At the others what was read is
a whole number, or one with a fraction, or one with an exponent, and what is missing of the three is
empty. -/
theorem NumberPart.Begun.numberText {part : NumberPart} (h : part.Begun t)
    (hend : part.mayEndBefore b = true) : NumberText t := by
  cases part with
  | minus | point | exponent | sign => cases hend
  | zero => exact ⟨t, [], [], by simp, h.wholeText (.inl rfl), .inl rfl, .inl rfl⟩
  | whole => exact ⟨t, [], [], by simp, h.wholeText (.inr rfl), .inl rfl, .inl rfl⟩
  | fraction =>
    obtain ⟨whole, digits, hwhole, hdigits, rfl⟩ := h
    exact ⟨whole, _, [], by simp, hwhole, .inr ⟨digits, rfl, hdigits⟩, .inl rfl⟩
  | power =>
    obtain ⟨whole, fraction, e, sign, digits, hwhole, hfraction, he, hsign, hdigits, rfl⟩ := h
    exact ⟨whole, fraction, _, rfl, hwhole, hfraction,
      .inr ⟨e, sign, digits, rfl, he, hsign, hdigits⟩⟩

/-! ### Containers -/

namespace Container

/-- The value of a container that ends here. -/
def value : Container → Raw
  | .array items => .array items.reverse
  | .object members _ => .object members.reverse

/-- The byte that a container begins with. -/
def opening : Container → UInt8
  | .array _ => 0x5b
  | .object _ _ => 0x7b

/-- The byte that a container ends with. -/
def closing : Container → UInt8
  | .array _ => 0x5d
  | .object _ _ => 0x7d

/-- There is nothing in the container yet. -/
def IsEmpty : Container → Prop
  | .array items => items = []
  | .object members _ => members = []

/-- What is in a container, as a part of a document. -/
def contents : Container → Part
  | .array items => .items items.reverse
  | .object members _ => .members members.reverse

/-- Bytes are what stands in a container before its next entry: spaces, behind a comma if there are
entries already. -/
def Before (c : Container) (s : List UInt8) : Prop :=
  c.IsEmpty ∧ Gap s ∨ ∃ t g, Writes c.contents t ∧ Gap g ∧ s = t ++ 0x2c :: g

/-- A container may end behind its entries, or behind spaces if it has none. -/
theorem writes_value {c : Container} (h : c.IsEmpty ∧ Gap s ∨ Writes c.contents s) :
    Writes (.value c.value) (c.opening :: (s ++ [c.closing])) := by
  cases c with
  | array items =>
    rcases h with ⟨rfl, hg⟩ | h
    · exact .emptyArray hg
    · exact .array h
  | object members key =>
    rcases h with ⟨rfl, hg⟩ | h
    · exact .emptyObject hg
    · exact .object h

end Container

/-- Spaces are spaces also with one more. -/
theorem Gap.concat (hg : Gap g) (hb : isSpace b = true) : Gap (g ++ [b]) := by
  intro d hd
  rcases List.mem_append.mp hd with hd | hd
  · exact hg d hd
  · rwa [List.mem_singleton.mp hd]

/-- Spaces in front of a value belong to it. -/
theorem Writes.spaced_of_gap (hg : Gap g) (ht : Writes (.value v) t) :
    Writes (.spaced v) (g ++ t) := by
  simpa using Writes.spaced hg ht gap_nil

/-- A space may follow whatever may end with spaces, and it then belongs to that part. Values alone
end with their last byte.

**Proof sketch.** Induction on what writes the part. A value with spaces around it takes the space
in; items and members hand it to the last of them. -/
theorem Writes.concat_space {p : Part} (h : Writes p t) (hp : ∀ v, p ≠ .value v)
    (hb : isSpace b = true) : Writes p (t ++ [b]) := by
  induction h with
  | null | yes | no | number | text | emptyArray | array | emptyObject | object =>
    exact absurd rfl (hp _)
  | spaced hbefore ht hafter =>
    rw [List.append_assoc]
    exact .spaced hbefore ht (hafter.concat hb)
  | item _ ih => exact .item (ih nofun)
  | moreItems hs _ _ ih =>
    rw [List.append_assoc, List.cons_append]
    exact .moreItems hs (ih nofun)
  | keyed hbefore hkey hafter _ ih =>
    simpa using Writes.keyed hbefore hkey hafter (ih nofun)
  | member _ ih => exact .member (ih nofun)
  | moreMembers hs _ _ ih =>
    rw [List.append_assoc, List.cons_append]
    exact .moreMembers hs (ih nofun)

/-! ### Scanners -/

/-- Bytes are the beginning of a document where a value comes next, in some open containers. -/
inductive Awaits : List Container → List UInt8 → Prop where
  /-- The document itself. -/
  | document : Awaits [] []
  /-- An item of an array. -/
  | item {outer : List Container} {items : List Raw} {t s : List UInt8} (houter : Awaits outer t)
    (hs : (Container.array items).Before s) : Awaits (.array items :: outer) (t ++ 0x5b :: s)
  /-- The value of a member, behind its key. -/
  | member {outer : List Container} {members : List (List UInt8 × Raw)}
    {key t s after before : List UInt8} (houter : Awaits outer t)
    (hs : (Container.object members key).Before s) (hkey : TextBody key) (hafter : Gap after)
    (hbefore : Gap before) :
    Awaits (.object members key :: outer)
      (t ++ 0x7b :: (s ++ 0x22 :: (key ++ 0x22 :: (after ++ 0x3a :: before))))

/-- Bytes lead a scanner to where it is. -/
inductive Reached : Scanner → List UInt8 → Prop where
  /-- Behind the bracket of an array. -/
  | firstItem {outer : List Container} {t g : List UInt8} (houter : Awaits outer t) (hg : Gap g) :
    Reached ⟨.array [] :: outer, .firstItem⟩ (t ++ 0x5b :: g)
  /-- Before a value. -/
  | item {c : Container} {outer : List Container} {t : List UInt8} (h : Awaits (c :: outer) t) :
    Reached ⟨c :: outer, .item⟩ t
  /-- Behind an entry. -/
  | separator {c : Container} {outer : List Container} {t s : List UInt8} (houter : Awaits outer t)
    (hs : Writes c.contents s) : Reached ⟨c :: outer, .separator⟩ (t ++ c.opening :: s)
  /-- Behind the brace of an object. -/
  | firstKey {key : List UInt8} {outer : List Container} {t g : List UInt8}
    (houter : Awaits outer t)
    (hg : Gap g) : Reached ⟨.object [] key :: outer, .firstKey⟩ (t ++ 0x7b :: g)
  /-- Before a key. -/
  | key {members : List (List UInt8 × Raw)} {key : List UInt8} {outer : List Container}
    {t s : List UInt8} (houter : Awaits outer t) (hs : (Container.object members key).Before s) :
    Reached ⟨.object members key :: outer, .key⟩ (t ++ 0x7b :: s)
  /-- Behind a key. -/
  | colon {members : List (List UInt8 × Raw)} {key : List UInt8} {outer : List Container}
    {t s g : List UInt8} (houter : Awaits outer t) (hs : (Container.object members key).Before s)
    (hkey : TextBody key) (hg : Gap g) :
    Reached ⟨.object members key :: outer, .colon⟩ (t ++ 0x7b :: (s ++ 0x22 :: (key ++ 0x22 :: g)))
  /-- Inside a key. -/
  | keyText {members : List (List UInt8 × Raw)} {key bytes : List UInt8} {escape : Escape}
    {outer : List Container} {t s : List UInt8} (houter : Awaits outer t)
    (hs : (Container.object members key).Before s) (hbytes : escape.Begun bytes.reverse) :
    Reached ⟨.object members key :: outer, .text true bytes escape⟩
      (t ++ 0x7b :: (s ++ 0x22 :: bytes.reverse))
  /-- Inside a text. -/
  | text {containers : List Container} {bytes t : List UInt8} {escape : Escape}
    (h : Awaits containers t) (hbytes : escape.Begun bytes.reverse) :
    Reached ⟨containers, .text false bytes escape⟩ (t ++ 0x22 :: bytes.reverse)
  /-- Inside a word. -/
  | word {containers : List Container} {letters t s : List UInt8} {v : Raw}
    (h : Awaits containers t)
    (hs : Writes (.value v) (s ++ letters)) : Reached ⟨containers, .word letters v⟩ (t ++ s)
  /-- Inside a number. -/
  | number {containers : List Container} {part : NumberPart} {t s : List UInt8}
    (h : Awaits containers t) (hs : part.Begun s) : Reached ⟨containers, .number part⟩ (t ++ s)

/-- Bytes lead to what is made of a scanner: to where it is, or to the end of a value that they
write. -/
def Progress.Sound : Progress → List UInt8 → Prop
  | .reading s, t => Reached s t
  | .complete v, t => Writes (.value v) t
  | .malformed, _ => True

/-- A value that goes on is reached where its scanner is. -/
@[simp]
theorem sound_reading {scanner : Scanner} :
    (Progress.reading scanner).Sound t ↔ Reached scanner t :=
  Iff.rfl

variable {c : Container} {containers outer : List Container}

/-- A value goes into the array that it stands in.

**Proof sketch.** The spaces before the value belong to it (`Writes.spaced_of_gap`), so it is the
first item, or one more item behind the comma. -/
theorem writes_contents_array {items : List Raw} (h : (Container.array items).Before s)
    (hv : Writes (.value v) t) : Writes (Container.array (v :: items)).contents (s ++ t) := by
  rw [Container.contents, List.reverse_cons]
  obtain ⟨rfl, hs⟩ | ⟨u, g, hu, hg, rfl⟩ := h
  · exact .item (.spaced_of_gap hs hv)
  · rw [List.append_assoc, List.cons_append]
    exact .moreItems hu (.spaced_of_gap hg hv)

/-- A value goes into the object that it stands in, together with its key.

**Proof sketch.** As for an array; the key, the colon and the spaces around them make a member of
the value. -/
theorem writes_contents_object {members : List (List UInt8 × Raw)}
    {key key' after before : List UInt8} (h : (Container.object members key).Before s)
    (hkey : TextBody key) (hafter : Gap after) (hbefore : Gap before) (hv : Writes (.value v) t) :
    Writes (Container.object ((key, v) :: members) key').contents
      (s ++ 0x22 :: (key ++ 0x22 :: (after ++ 0x3a :: before)) ++ t) := by
  have hvalue : Writes (.spaced v) (before ++ t) := .spaced_of_gap hbefore hv
  rw [Container.contents, List.reverse_cons]
  obtain ⟨rfl, hs⟩ | ⟨u, g, hu, hg, rfl⟩ := h
  · simpa using Writes.member (.keyed hs hkey hafter hvalue)
  · simpa using Writes.moreMembers hu (.keyed hg hkey hafter hvalue)

/-- A value that is complete is the document, or goes into the container that it stands in. In the
second case the scanner expects a comma or the end next, and the bytes are cut anew: those up to the
container, its opening byte, and those of its entries.

**Proof sketch.** By what awaits the value; nothing awaits it in the document itself, and in a
container it becomes an entry (`writes_contents_array`, `writes_contents_object`). -/
theorem close_cases (h : Awaits containers t) (hv : Writes (.value v) s) :
    Scanner.close containers v = .complete v ∧ t = [] ∨
      ∃ c outer t' s', Scanner.close containers v = .reading ⟨c :: outer, .separator⟩ ∧
        Awaits outer t' ∧ Writes c.contents s' ∧ t ++ s = t' ++ c.opening :: s' := by
  cases h with
  | document => exact .inl ⟨rfl, rfl⟩
  | item houter hs =>
    exact .inr ⟨_, _, _, _, rfl, houter, writes_contents_array hs hv, List.append_assoc ..⟩
  | member houter hs hkey hafter hbefore =>
    exact .inr ⟨_, _, _, _, rfl, houter, writes_contents_object hs hkey hafter hbefore hv,
      List.append_assoc ..⟩

/-- A value is complete: it is what the bytes write, or it went into the container that it stands
in. -/
theorem sound_close (h : Awaits containers t) (hv : Writes (.value v) s) :
    (Scanner.close containers v).Sound (t ++ s) := by
  obtain ⟨hclose, rfl⟩ | ⟨c, outer, t', s', hclose, houter, hs', hbytes⟩ := close_cases h hv
  · rw [hclose]
    exact hv
  · rw [hclose, hbytes]
    exact Reached.separator houter hs'

/-- A container ends if this is its closing byte, and then it is a value itself, complete in the
container around it.

**Proof sketch.** Its entries, or the spaces in it, write it between the two bytes
(`Container.writes_value`). The argument is the same for both kinds of containers, so it is made
before they are told apart. -/
theorem sound_closeContainer (houter : Awaits outer t)
    (hs : c.IsEmpty ∧ Gap s ∨ Writes c.contents s) :
    (Scanner.closeContainer (c :: outer) b).Sound (t ++ c.opening :: s ++ [b]) := by
  have hend : (b == c.closing) = true →
      (Scanner.close outer c.value).Sound (t ++ c.opening :: s ++ [b]) := by
    intro hb
    rw [eq_of_beq hb, List.append_assoc, List.cons_append]
    exact sound_close houter (Container.writes_value hs)
  cases c with
  | array items =>
    rw [Scanner.closeContainer]
    split
    · next hb => exact hend hb
    · trivial
  | object members key =>
    rw [Scanner.closeContainer]
    split
    · next hb => exact hend hb
    · trivial

/-- A value begins: its first byte alone says of which kind it is, and nothing of it is written yet
but that byte. -/
theorem sound_startValue (h : Awaits containers t) :
    (Scanner.startValue containers b).Sound (t ++ [b]) := by
  unfold Scanner.startValue
  split_ifs with htext harray hobject hyes hno hnull hminus hzero hdigit
  · rw [eq_of_beq htext]
    exact Reached.text h .nil
  · rw [eq_of_beq harray]
    exact Reached.firstItem h gap_nil
  · rw [eq_of_beq hobject]
    exact Reached.firstKey h gap_nil
  · rw [eq_of_beq hyes]
    exact Reached.word h .yes
  · rw [eq_of_beq hno]
    exact Reached.word h .no
  · rw [eq_of_beq hnull]
    exact Reached.word h .null
  · rw [eq_of_beq hminus]
    exact Reached.number h rfl
  · rw [eq_of_beq hzero]
    exact Reached.number h ⟨[], rfl, .inl rfl⟩
  · refine Reached.number h ⟨[], [b], rfl, .inl rfl, digits_singleton hdigit, ?_⟩
    simpa using hzero
  · trivial

/-- A space may stand before an entry of a container. -/
theorem Container.Before.concat_space (h : c.Before s) (hb : isSpace b = true) :
    c.Before (s ++ [b]) := by
  obtain ⟨hempty, hs⟩ | ⟨u, g, hu, hg, rfl⟩ := h
  · exact .inl ⟨hempty, hs.concat hb⟩
  · exact .inr ⟨u, g ++ [b], hu, hg.concat hb, by simp⟩

/-- A space may stand before a value in a container. -/
theorem Awaits.concat_space (h : Awaits (c :: outer) t) (hb : isSpace b = true) :
    Awaits (c :: outer) (t ++ [b]) := by
  cases h with
  | item houter hs =>
    rw [List.append_assoc]
    exact .item houter (hs.concat_space hb)
  | member houter hs hkey hafter hbefore =>
    simpa using Awaits.member houter hs hkey hafter (hbefore.concat hb)

/-- What may stand behind an entry: a space, which belongs to the entry; a comma, behind which the
next entry must come; or the end of the container.

**Proof sketch.** A space leaves the entries written (`Writes.concat_space`). Behind a comma the
container is one where an item or a key must come, according to its kind. Any other byte is one that
has to end the container (`sound_closeContainer`). -/
theorem sound_separate (houter : Awaits outer t) (hs : Writes c.contents s) :
    (Scanner.separate (c :: outer) b).Sound (t ++ c.opening :: s ++ [b]) := by
  unfold Scanner.separate
  split
  · next hspace =>
    rw [List.append_assoc, List.cons_append]
    refine Reached.separator houter (hs.concat_space ?_ hspace)
    cases c <;> exact nofun
  · split
    · next hcomma =>
      have hbefore : c.Before (s ++ [b]) := .inr ⟨s, [], hs, gap_nil, by rw [eq_of_beq hcomma]⟩
      rw [List.append_assoc, List.cons_append]
      cases c with
      | array items => exact Reached.item (.item houter hbefore)
      | object members key => exact Reached.key houter hbefore
    · exact sound_closeContainer houter (.inr hs)

/-- One more byte inside a number, or behind it. A number does not end with a byte of its own, so
the byte behind it is the separator of the container that it went into.

**Proof sketch.** If the number goes on, so do the bytes that lead here (`NumberPart.Begun.next`).
If not, and if it may end, it is complete (`NumberPart.Begun.numberText`) and cannot be the
document, which is an array or an object; so there is a container, and the byte is what stands
behind an entry in it (`sound_separate`). -/
theorem sound_step_number {part : NumberPart} (h : Awaits containers t) (hs : part.Begun s) :
    (Scanner.step ⟨containers, .number part⟩ b).Sound (t ++ s ++ [b]) := by
  simp only [Scanner.step]
  split
  · next part' hnext =>
    rw [List.append_assoc]
    exact Reached.number h (hs.next hnext)
  · split
    · next hend =>
      obtain ⟨hclose, _⟩ | ⟨c, outer, t', s', hclose, houter, hs', hbytes⟩ :=
        close_cases h (.number (hs.numberText hend))
      · rw [hclose]
        trivial
      · rw [hclose, hbytes]
        exact sound_separate houter hs'
    · trivial

/-- One more byte inside a word: it must be the next of the letters, and with the last of them the
value is complete.

**Proof sketch.** What was read of the word and the letters that are left write it together. If the
byte is the next letter, it goes over from the second to the first. When no letters are left, all of
the word has been read, and the value is closed (`sound_close`). -/
theorem sound_step_word {letters : List UInt8} (h : Awaits containers t)
    (hs : Writes (.value v) (s ++ letters)) :
    (Scanner.step ⟨containers, .word letters v⟩ b).Sound (t ++ s ++ [b]) := by
  simp only [Scanner.step]
  split
  · trivial
  · next letter more =>
    split
    · trivial
    · next hb =>
      rw [List.append_assoc, not_not.mp hb]
      rw [List.append_cons] at hs
      split
      · next hmore =>
        rw [List.isEmpty_iff.mp hmore, List.append_nil] at hs
        exact sound_close h hs
      · exact Reached.word h hs

/-- One more byte behind the bracket of an array.

**Proof sketch.** A space leaves the array without items. The closing bracket ends it
(`sound_closeContainer`), and any other byte begins the first item (`sound_startValue`). -/
theorem sound_step_firstItem (houter : Awaits outer t) (hg : Gap g) :
    (Scanner.step ⟨.array [] :: outer, .firstItem⟩ b).Sound (t ++ 0x5b :: g ++ [b]) := by
  simp only [Scanner.step]
  split
  · next hspace =>
    rw [List.append_assoc, List.cons_append]
    exact Reached.firstItem houter (hg.concat hspace)
  · split
    · exact sound_closeContainer (c := .array []) houter (.inl ⟨rfl, hg⟩)
    · exact sound_startValue (.item houter (.inl ⟨rfl, hg⟩))

/-- One more byte behind the brace of an object.

**Proof sketch.** A space leaves the object without members, a quote begins the first key, and any
other byte is one that has to end the object (`sound_closeContainer`). -/
theorem sound_step_firstKey {key : List UInt8} (houter : Awaits outer t) (hg : Gap g) :
    (Scanner.step ⟨.object [] key :: outer, .firstKey⟩ b).Sound (t ++ 0x7b :: g ++ [b]) := by
  simp only [Scanner.step]
  split
  · next hspace =>
    rw [List.append_assoc, List.cons_append]
    exact Reached.firstKey houter (hg.concat hspace)
  · split
    · next hquote =>
      rw [eq_of_beq hquote, List.append_assoc, List.cons_append]
      exact Reached.keyText houter (.inl ⟨rfl, hg⟩) .nil
    · exact sound_closeContainer (c := .object [] key) houter (.inl ⟨rfl, hg⟩)

/-- One more byte where a key must come, behind a comma.

**Proof sketch.** A space belongs to what stands before the key. A quote begins the key, and any
other byte is refused. -/
theorem sound_step_key {members : List (List UInt8 × Raw)} {key : List UInt8}
    (houter : Awaits outer t) (hs : (Container.object members key).Before s) :
    (Scanner.step ⟨.object members key :: outer, .key⟩ b).Sound (t ++ 0x7b :: s ++ [b]) := by
  simp only [Scanner.step]
  split
  · next hspace =>
    rw [List.append_assoc, List.cons_append]
    exact Reached.key houter (hs.concat_space hspace)
  · split
    · next hquote =>
      rw [eq_of_beq hquote, List.append_assoc, List.cons_append]
      exact Reached.keyText houter hs .nil
    · trivial

/-- One more byte between a key and its colon, or the colon.

**Proof sketch.** A space belongs to what stands between the two. Behind the colon the value of the
member comes next, and any other byte is refused. -/
theorem sound_step_colon {members : List (List UInt8 × Raw)} {key : List UInt8}
    (houter : Awaits outer t) (hs : (Container.object members key).Before s) (hkey : TextBody key)
    (hg : Gap g) :
    (Scanner.step ⟨.object members key :: outer, .colon⟩ b).Sound
      (t ++ 0x7b :: (s ++ 0x22 :: (key ++ 0x22 :: g)) ++ [b]) := by
  simp only [Scanner.step]
  split
  · next hspace => simpa using Reached.colon houter hs hkey (hg.concat hspace)
  · split
    · next hcolon =>
      rw [eq_of_beq hcolon]
      simpa using Reached.item (.member houter hs hkey hg gap_nil)
    · trivial

/-- The bytes of a text, kept last first, go on with one more. -/
theorem Escape.Begun.next_reverse {escape escape' : Escape}
    (h : escape.Begun bytes.reverse) (hend : ¬(escape = .outside ∧ b = 0x22))
    (hnext : escape.next? b = some escape') : escape'.Begun (b :: bytes).reverse := by
  rw [List.reverse_cons]
  exact h.next hend hnext

/-- One more byte inside a key, or the quote at its end.

**Proof sketch.** As `sound_step_text`, but behind the quote a colon must come, and the object keeps
the key until it has the value. -/
theorem sound_step_keyText {members : List (List UInt8 × Raw)} {key : List UInt8} {escape : Escape}
    (houter : Awaits outer t) (hs : (Container.object members key).Before s)
    (hbytes : escape.Begun bytes.reverse) :
    (Scanner.step ⟨.object members key :: outer, .text true bytes escape⟩ b).Sound
      (t ++ 0x7b :: (s ++ 0x22 :: bytes.reverse) ++ [b]) := by
  simp only [Scanner.step]
  split
  · next hend =>
    obtain ⟨rfl, rfl⟩ := hend
    -- what stands before the key does not depend on the key that was kept before it
    have hs' : (Container.object members bytes.reverse).Before s := hs
    simpa [Scanner.closeText] using Reached.colon houter hs' hbytes gap_nil
  · next hend =>
    split
    · next hnext => simpa using Reached.keyText houter hs (hbytes.next_reverse hend hnext)
    · trivial

/-- One more byte inside a text that is a value, or the quote at its end.

**Proof sketch.** The quote closes the text if no escape has begun, and what was read of it is a
whole text then (`sound_close`). Any other byte goes to the text as its escapes allow
(`Escape.Begun.next_reverse`). -/
theorem sound_step_text {escape : Escape} (h : Awaits containers t)
    (hbytes : escape.Begun bytes.reverse) :
    (Scanner.step ⟨containers, .text false bytes escape⟩ b).Sound
      (t ++ 0x22 :: bytes.reverse ++ [b]) := by
  simp only [Scanner.step]
  split
  · next hend =>
    obtain ⟨rfl, rfl⟩ := hend
    rw [List.append_assoc]
    exact sound_close h (.text hbytes)
  · next hend =>
    split
    · next hnext => simpa using Reached.text h (hbytes.next_reverse hend hnext)
    · trivial

/-- **One more byte** leads to what the scanner makes of it, be that a scanner again, a value that
is complete, or nothing.

**Proof sketch.** By what the scanner expects next, one lemma for each (`sound_step_firstItem` and
those around it). A byte either extends the last of the bytes that led here, or ends a part of the
document; what ends goes into the innermost container (`close_cases`), and nowhere else does the
nesting change. -/
theorem Reached.step {scanner : Scanner} (h : Reached scanner t) (b : UInt8) :
    (scanner.step b).Sound (t ++ [b]) := by
  cases h with
  | firstItem houter hg => exact sound_step_firstItem houter hg
  | item h =>
    simp only [Scanner.step]
    split
    · next hspace => exact .item (h.concat_space hspace)
    · exact sound_startValue h
  | separator houter hs => exact sound_separate houter hs
  | firstKey houter hg => exact sound_step_firstKey houter hg
  | key houter hs => exact sound_step_key houter hs
  | colon houter hs hkey hg => exact sound_step_colon houter hs hkey hg
  | keyText houter hs hbytes => exact sound_step_keyText houter hs hbytes
  | text h hbytes => exact sound_step_text h hbytes
  | word h hs => exact sound_step_word h hs
  | number h hs => exact sound_step_number h hs

/-- **Some more bytes** lead to what is made of them.

**Proof sketch.** Induction on the bytes, one step for each (`Reached.step`). Nothing is claimed of
a scanner that refused a byte, and it accepts none behind that; neither does one whose value is
complete. -/
theorem Progress.Sound.feed {p : Progress} (h : p.Sound t) (s : List UInt8) :
    (p.feed s).Sound (t ++ s) := by
  induction s generalizing p t with
  | nil => rwa [List.append_nil]
  | cons b rest ih =>
    rw [List.append_cons]
    refine ih ?_
    cases p with
    | reading scanner => exact Reached.step h b
    | complete v => trivial
    | malformed => trivial

/-- The first byte of an array or object leads to the first scanner, in which nothing is around that
container. -/
theorem reached_start {scanner : Scanner} (h : Scanner.start? b = some scanner) :
    Reached scanner [b] := by
  unfold Scanner.start? at h
  split at h
  · next hb =>
    cases h
    rw [eq_of_beq hb]
    exact .firstItem .document gap_nil
  · split at h
    · next hb =>
      cases h
      rw [eq_of_beq hb]
      exact .firstKey .document gap_nil
    · cases h

end TargetGraph.Json
