import TargetGraph.Proofs.Json.Soundness

set_option relaxedAutoImplicit false
set_option autoImplicit false

/-!
# A scanner takes in whatever the grammar lets be written

A scanner that comes to a value goes through all the bytes that write it, and closes the value with
the last of them. Only a number needs one byte more, as it might go on; any byte that may stand
behind a value closes it.

## Main definitions

* `TargetGraph.Json.Settled` — behind a value, what is made of a scanner does not differ from what
  is made of another.
* `TargetGraph.Json.Part.Settles` — bytes are taken in as a part of a document.

## Main results

* `TargetGraph.Json.Writes.settles` — what the grammar lets be written is taken in.
* `TargetGraph.Json.feed_of_writes` — a whole array or object is taken in, and complete with its
  last byte.
-/

namespace TargetGraph.Json

variable {b : UInt8} {s t g bytes : List UInt8} {v : Raw} {p q : Progress}
  {containers outer : List Container} {c : Container}

/-! ### Feeding -/

/-- Bytes are taken in one after another. -/
theorem feed_cons : p.feed (b :: t) = (p.step b).feed t := rfl

/-- Bytes are taken in one part after another. -/
theorem feed_append : p.feed (s ++ t) = (p.feed s).feed t :=
  List.foldl_append

/-- What is no value stays none. -/
theorem feed_malformed : Progress.malformed.feed t = .malformed := by
  induction t with
  | nil => rfl
  | cons b rest ih => exact ih

/-- Nothing may stand behind a value that is complete.

**Proof sketch.** One more byte makes it malformed, and no byte behind that one makes it complete
again (`feed_malformed`). -/
theorem feed_complete_eq_complete {w : Raw} (h : (Progress.complete v).feed t = .complete w) :
    t = [] ∧ v = w := by
  cases t with
  | nil =>
    cases h
    exact ⟨rfl, rfl⟩
  | cons b rest =>
    rw [feed_cons, Progress.step, feed_malformed] at h
    cases h

/-- Before its last byte, a value is still going on: once it is complete or malformed, any further
byte makes it malformed. -/
theorem exists_reading_of_feed (h : p.feed (s ++ t) ≠ .malformed) (ht : t ≠ []) :
    ∃ scanner, p.feed s = .reading scanner := by
  obtain ⟨b, rest, rfl⟩ := List.exists_cons_of_ne_nil ht
  rw [feed_append, feed_cons] at h
  cases hs : p.feed s with
  | reading scanner => exact ⟨scanner, rfl⟩
  | complete | malformed =>
    rw [hs] at h
    exact absurd feed_malformed h

/-- The scanner is between the parts of a value. -/
def Expecting.Waits : Expecting → Prop
  | .firstItem | .item | .separator | .firstKey | .key | .colon => True
  | .text _ _ _ | .word _ _ | .number _ => False

/-- Between the parts of a value, spaces are passed over, by induction on the spaces. -/
theorem feed_spaces (e : Expecting) (he : e.Waits) (hg : Gap g) :
    (Progress.reading ⟨containers, e⟩).feed g = .reading ⟨containers, e⟩ := by
  induction g with
  | nil => rfl
  | cons b rest ih =>
    have hstep : (Progress.reading ⟨containers, e⟩).step b = .reading ⟨containers, e⟩ := by
      have hb := hg b (List.mem_cons_self ..)
      cases e with
      | text | word | number => cases he
      | firstItem | item | separator | firstKey | key | colon =>
        simp [Progress.step, Scanner.step, Scanner.separate, hb]
    rw [feed_cons, hstep]
    exact ih fun d hd => hg d (List.mem_cons_of_mem _ hd)

/-! ### Texts -/

/-- Inside a text, a byte that does not end it is added to it. -/
theorem step_text {isKey : Bool} {escape escape' : Escape} (hnext : escape.next? b = some escape')
    (hquote : ¬(escape = .outside ∧ b = 0x22)) :
    (Progress.reading ⟨containers, .text isKey bytes escape⟩).step b =
      .reading ⟨containers, .text isKey (b :: bytes) escape'⟩ := by
  simp only [Progress.step, Scanner.step, if_neg hquote, hnext]

/-- A `u` and four digits are taken in behind a backslash.

**Proof sketch.** Six bytes are read one after another (`step_text`): the `u` asks for four digits,
each digit but the last for one fewer, and the last leads out of the escape. -/
theorem feed_unit {isKey : Bool} {digits : List UInt8} (hlength : digits.length = 4)
    (hdigits : ∀ b ∈ digits, (hexValue? b).isSome) :
    (Progress.reading ⟨containers, .text isKey bytes .letter⟩).feed (0x75 :: digits) =
      .reading ⟨containers, .text isKey ((0x75 :: digits).reverse ++ bytes) .outside⟩ := by
  obtain ⟨a, b, c, d, rfl⟩ := List.length_eq_four.mp hlength
  have hu : Escape.letter.next? 0x75 = some (.digits 3) := by decide
  have hmore : ∀ x ∈ [a, b, c, d], ∀ more,
      (Escape.digits (more + 1)).next? x = some (.digits more) := fun x hx more => by
    simpa [Escape.next?, Option.isSome_iff_ne_none] using hdigits x hx
  have hlast : (Escape.digits 0).next? d = some .outside := by
    simpa [Escape.next?, Option.isSome_iff_ne_none] using hdigits d (by simp)
  simp only [List.forall_mem_cons] at hmore
  rw [feed_cons, step_text hu (by decide), feed_cons, step_text (hmore.1 2) (by simp), feed_cons,
    step_text (hmore.2.1 1) (by simp), feed_cons, step_text (hmore.2.2.1 0) (by simp)]
  exact step_text hlast (by simp)

/-- What stands for one thing in a text is taken in.

**Proof sketch.** A byte that stands for itself leaves the scanner outside an escape. A backslash
leads into one, and a letter out of it again, or a `u` and four digits do (`feed_unit`). Each byte
is one `step_text`. -/
theorem feed_textPiece {isKey : Bool} (h : TextPiece t) :
    (Progress.reading ⟨containers, .text isKey bytes .outside⟩).feed t =
      .reading ⟨containers, .text isKey (t.reverse ++ bytes) .outside⟩ := by
  cases h with
  | @plain b hcontrol hquote hbackslash =>
    have hnext : Escape.outside.next? b = some .outside := by
      simp [Escape.next?, UInt8.not_lt.mpr hcontrol, hbackslash]
    exact step_text hnext fun h => hquote h.2
  | @letter b hletter =>
    have hu : b ≠ 0x75 := by
      rintro rfl
      cases hletter
    have hbackslash : Escape.outside.next? 0x5c = some .letter := by decide
    have hnext : Escape.letter.next? b = some .outside := by simp [Escape.next?, hu, hletter]
    rw [feed_cons, step_text hbackslash (by decide)]
    exact step_text hnext (by simp)
  | @unit digits hlength hdigits =>
    have hbackslash : Escape.outside.next? 0x5c = some .letter := by decide
    rw [feed_cons, step_text hbackslash (by decide), feed_unit hlength hdigits, List.append_cons,
      ← List.reverse_cons]

/-- What may stand between two quotes is taken in, piece by piece (`feed_textPiece`). -/
theorem feed_textBody {isKey : Bool} (h : TextBody t) :
    (Progress.reading ⟨containers, .text isKey bytes .outside⟩).feed t =
      .reading ⟨containers, .text isKey (t.reverse ++ bytes) .outside⟩ := by
  induction h with
  | nil => rfl
  | append _ ht ih =>
    rw [feed_append, ih, feed_textPiece ht, List.reverse_append, List.append_assoc]

/-! ### Numbers -/

/-- The part of a number that some bytes lead to, if the number goes on with them. -/
def NumberPart.run? (part : NumberPart) (bytes : List UInt8) : Option NumberPart :=
  bytes.foldlM NumberPart.next? part

/-- A number may end at this part. -/
def NumberPart.MayEnd (part : NumberPart) : Prop :=
  part = .zero ∨ part = .whole ∨ part = .fraction ∨ part = .power

/-- The byte may stand behind a value: a space, a comma or the end of a container. -/
def IsDelimiter (b : UInt8) : Prop :=
  isSpace b = true ∨ b = 0x2c ∨ b = 0x5d ∨ b = 0x7d

variable {part part' : NumberPart}

/-- A number goes on for several bytes. -/
theorem run?_append :
    part.run? (s ++ t) = (part.run? s).bind fun part => part.run? t := by
  rw [NumberPart.run?, List.foldlM_append]
  rfl

/-- A number goes on through digits where digits may follow digits. -/
theorem run?_digits (hpart : ∀ b, isDigit b = true → part.next? b = some part)
    (ht : ∀ b ∈ t, isDigit b = true) : part.run? t = some part := by
  induction t with
  | nil => rfl
  | cons b rest ih =>
    rw [List.forall_mem_cons] at ht
    rw [NumberPart.run?, List.foldlM_cons, hpart b ht.1]
    exact ih ht.2

/-- A number goes on through some digits where the first leads to a part where digits may follow. -/
theorem run?_firstDigits (hpart : ∀ b, isDigit b = true → part.next? b = some part')
    (hpart' : ∀ b, isDigit b = true → part'.next? b = some part') (ht : Digits t) :
    part.run? t = some part' := by
  obtain ⟨hne, ht⟩ := ht
  obtain ⟨b, rest, rfl⟩ := List.exists_cons_of_ne_nil hne
  rw [List.forall_mem_cons] at ht
  rw [NumberPart.run?, List.foldlM_cons, hpart b ht.1]
  exact run?_digits hpart' ht.2

/-- A digit is none of the other bytes. -/
theorem beq_eq_false_of_isDigit {d : UInt8} (hb : isDigit b = true) (hd : isDigit d = false) :
    (b == d) = false := by
  rw [beq_eq_false_iff_ne]
  rintro rfl
  rw [hb] at hd
  cases hd

/-- The digits of a whole number are taken in behind its sign.

**Proof sketch.** A zero stands alone. Any other digit leads to the part where digits may follow
(`run?_digits`). -/
theorem run?_minus (ht : t = [0x30] ∨ Digits t ∧ t.head? ≠ some 0x30) :
    ∃ part, NumberPart.minus.run? t = some part ∧ (part = .zero ∨ part = .whole) := by
  rcases ht with rfl | ⟨⟨hne, ht⟩, hhead⟩
  · exact ⟨.zero, by decide, .inl rfl⟩
  · obtain ⟨b, rest, rfl⟩ := List.exists_cons_of_ne_nil hne
    rw [List.forall_mem_cons] at ht
    have hb : b ≠ 0x30 := fun h => hhead (congrArg some h)
    have hnext : NumberPart.minus.next? b = some .whole := by simp [NumberPart.next?, hb, ht.1]
    refine ⟨.whole, ?_, .inr rfl⟩
    rw [NumberPart.run?, List.foldlM_cons, hnext]
    exact run?_digits (fun d hd => by simp [NumberPart.next?, hd]) ht.2

/-- A fraction is taken in behind a whole number: nothing, or a point and then digits
(`run?_firstDigits`). -/
theorem run?_fraction (hpart : part = .zero ∨ part = .whole) (ht : FractionText t) :
    ∃ part', part.run? t = some part' ∧ (part' = part ∨ part' = .fraction) := by
  rcases ht with rfl | ⟨digits, rfl, hdigits⟩
  · exact ⟨part, rfl, .inl rfl⟩
  · have hpoint : part.next? 0x2e = some .point := by rcases hpart with rfl | rfl <;> decide
    refine ⟨.fraction, ?_, .inr rfl⟩
    rw [NumberPart.run?, List.foldlM_cons, hpoint]
    exact run?_firstDigits (fun d hd => by simp [NumberPart.next?, hd])
      (fun d hd => by simp [NumberPart.next?, hd]) hdigits

/-- Behind the letter of an exponent its sign and its digits are taken in.

**Proof sketch.** A sign leads to the part where digits must follow. Without one the first digit
leads where it would lead behind a sign, because it is itself none (`beq_eq_false_of_isDigit`). -/
theorem run?_afterE {sign digits : List UInt8}
    (hsign : PowerSign sign) (hdigits : Digits digits) :
    NumberPart.exponent.run? (sign ++ digits) = some .power := by
  have hpower : ∀ b, isDigit b = true → NumberPart.power.next? b = some .power := fun b hb => by
    simp [NumberPart.next?, hb]
  rcases hsign with rfl | hsign
  · refine run?_firstDigits (fun b hb => ?_) hpower hdigits
    have hplus : (b == 0x2b) = false := beq_eq_false_of_isDigit hb rfl
    have hminus : (b == 0x2d) = false := beq_eq_false_of_isDigit hb rfl
    simp [NumberPart.next?, hb, hplus, hminus]
  · have hrun : NumberPart.exponent.run? sign = some .sign := by
      rcases hsign with rfl | rfl <;> decide
    rw [run?_append, hrun]
    exact run?_firstDigits (fun b hb => by simp [NumberPart.next?, hb]) hpower hdigits

/-- An exponent is taken in behind a whole number or a fraction.

**Proof sketch.** There is nothing, or the letter `e` and what `run?_afterE` takes in. -/
theorem run?_exponent (hpart : part = .zero ∨ part = .whole ∨ part = .fraction)
    (ht : ExponentText t) :
    ∃ part', part.run? t = some part' ∧ (part' = part ∨ part' = .power) := by
  rcases ht with rfl | ⟨e, sign, digits, rfl, he, hsign, hdigits⟩
  · exact ⟨part, rfl, .inl rfl⟩
  · have hletter : part.next? e = some .exponent := by
      rcases he with rfl | rfl <;> rcases hpart with rfl | rfl | rfl <;> decide
    refine ⟨.power, ?_, .inr rfl⟩
    rw [NumberPart.run?, List.foldlM_cons, hletter]
    exact run?_afterE hsign hdigits

/-- Where a number may end, whatever may stand behind it ends it: four parts and seven bytes, each
pair of them looked at. -/
theorem ends_of_mayEnd (hpart : part.MayEnd) (hb : IsDelimiter b) :
    part.next? b = none ∧ part.mayEndBefore b = true := by
  have hbyte : b = 0x20 ∨ b = 0x0a ∨ b = 0x0d ∨ b = 0x09 ∨ b = 0x2c ∨ b = 0x5d ∨ b = 0x7d := by
    simpa [IsDelimiter, isSpace, or_assoc] using hb
  rcases hpart with rfl | rfl | rfl | rfl <;>
    rcases hbyte with rfl | rfl | rfl | rfl | rfl | rfl | rfl <;> decide

/-- A number is taken in as its parts go on.

**Proof sketch.** By induction on its bytes, for every part: the first byte leads to a part from
which the others are taken in, and it is one step of the scanner. -/
theorem feed_number (h : part.run? t = some part') :
    (Progress.reading ⟨containers, .number part⟩).feed t =
      .reading ⟨containers, .number part'⟩ := by
  induction t generalizing part with
  | nil =>
    cases h
    rfl
  | cons b rest ih =>
    rw [NumberPart.run?, List.foldlM_cons] at h
    obtain ⟨next, hnext, hrest⟩ := Option.bind_eq_some_iff.mp h
    rw [feed_cons, Progress.step]
    simp only [Scanner.step, hnext]
    exact ih hrest

/-- A digit is no space. -/
theorem not_space_of_isDigit (hb : isDigit b = true) : isSpace b = false := by
  have hne : ∀ d, isDigit d = false → (b == d) = false := fun d => beq_eq_false_of_isDigit hb
  simp only [isSpace, hne 0x20 rfl, hne 0x0a rfl, hne 0x0d rfl, hne 0x09 rfl, Bool.or_self]

/-- Where a value comes next, a digit begins a number as it goes on behind a sign: it is none of the
bytes that begin other values. -/
theorem step_item_digit (hb : isDigit b = true) :
    (Progress.reading ⟨containers, .item⟩).step b =
      (Progress.reading ⟨containers, .number .minus⟩).step b := by
  have hne : ∀ d, isDigit d = false → (b == d) = false := fun d => beq_eq_false_of_isDigit hb
  simp only [Progress.step, Scanner.step, Scanner.startValue, not_space_of_isDigit hb,
    hne 0x22 rfl, hne 0x5b rfl, hne 0x7b rfl, hne 0x74 rfl, hne 0x66 rfl, hne 0x6e rfl,
    hne 0x2d rfl, NumberPart.next?, hb]
  by_cases hzero : b = 0x30 <;> simp [hzero]

/-- The digits of a whole number begin with a digit. -/
theorem exists_first_digit (ht : t = [0x30] ∨ Digits t ∧ t.head? ≠ some 0x30) :
    ∃ b rest, t = b :: rest ∧ isDigit b = true := by
  rcases ht with rfl | ⟨⟨hne, ht⟩, _⟩
  · exact ⟨0x30, [], rfl, rfl⟩
  · obtain ⟨b, rest, rfl⟩ := List.exists_cons_of_ne_nil hne
    exact ⟨b, rest, rfl, ht b (List.mem_cons_self ..)⟩

/-- A number is taken in where a value comes next, and may end with its last byte.

**Proof sketch.** From behind its sign the number goes on through its digits, fraction and exponent
(`run?_minus`, `run?_fraction`, `run?_exponent`), and each of these leaves it at a part where it may
end. The sign leads there; without a sign the first digit does what it would do behind one
(`step_item_digit`). -/
theorem feed_item_number (ht : NumberText t) :
    ∃ part : NumberPart, part.MayEnd ∧ ∀ containers,
      (Progress.reading ⟨containers, .item⟩).feed t = .reading ⟨containers, .number part⟩ := by
  obtain ⟨_, fraction, exponent, rfl, hwhole, hfraction, hexponent⟩ := ht
  obtain ⟨sign, digits, rfl, hsign, hdigits⟩ := hwhole
  obtain ⟨first, hfirst, hpart⟩ := run?_minus hdigits
  obtain ⟨next, hnext, hpart'⟩ := run?_fraction hpart hfraction
  have hpart' : next = .zero ∨ next = .whole ∨ next = .fraction := by
    rcases hpart' with rfl | rfl
    · exact or_assoc.mp (.inl hpart)
    · exact .inr (.inr rfl)
  obtain ⟨last, hlast, hpart''⟩ := run?_exponent hpart' hexponent
  have hrun : NumberPart.minus.run? (digits ++ fraction ++ exponent) = some last := by
    rw [run?_append, run?_append, hfirst, Option.bind_some, hnext, Option.bind_some, hlast]
  refine ⟨last, ?_, fun containers => ?_⟩
  · rcases hpart'' with rfl | rfl
    · rcases hpart' with rfl | rfl | rfl
      · exact .inl rfl
      · exact .inr (.inl rfl)
      · exact .inr (.inr (.inl rfl))
    · exact .inr (.inr (.inr rfl))
  · rw [← feed_number hrun]
    rcases hsign with rfl | rfl
    · -- the first digit does the same behind a sign
      obtain ⟨b, rest, rfl, hb⟩ := exists_first_digit hdigits
      exact congrArg (Progress.feed · (rest ++ fraction ++ exponent)) (step_item_digit hb)
    · rfl

/-! ### Containers -/

/-- The container with one more value in it. -/
def Container.add : Container → Raw → Container
  | .array items, v => .array (v :: items)
  | .object members key, v => .object ((key, v) :: members) []

/-- A value that is complete goes into the innermost container. -/
theorem close_cons :
    Scanner.close (c :: outer) v = .reading ⟨c.add v :: outer, .separator⟩ := by
  cases c <;> rfl

/-- Behind a value, what is made of a scanner does not differ from what is made of another. -/
def Settled (p q : Progress) : Prop :=
  ∀ b, IsDelimiter b → p.step b = q.step b

/-- What is settled stays so behind what may stand behind a value. -/
theorem Settled.feed (h : Settled p q) (hb : IsDelimiter b) : p.feed (b :: t) = q.feed (b :: t) :=
  congrArg (Progress.feed · t) (h b hb)

/-- Spaces behind a value settle it. -/
theorem Settled.feed_gap (h : Settled p (.reading ⟨containers, .separator⟩)) (hg : Gap g) :
    Settled (p.feed g) (.reading ⟨containers, .separator⟩) := by
  cases g with
  | nil => exact h
  | cons b rest =>
    rw [h.feed (.inl (hg b (List.mem_cons_self ..))), feed_spaces .separator trivial hg]
    exact fun _ _ => rfl

/-- Bytes are taken in as a part of a document, up to the byte behind them. -/
def Part.Settles : Part → List UInt8 → Prop
  | .value v, t | .spaced v, t => ∀ c outer,
    Settled ((Progress.reading ⟨c :: outer, .item⟩).feed t)
      (.reading ⟨c.add v :: outer, .separator⟩)
  | .items vs, t => ∀ outer,
    Settled ((Progress.reading ⟨.array [] :: outer, .firstItem⟩).feed t)
      (.reading ⟨.array vs.reverse :: outer, .separator⟩)
  | .member m, t => ∀ members key outer,
    Settled ((Progress.reading ⟨.object members key :: outer, .key⟩).feed t)
      (.reading ⟨.object (m :: members) [] :: outer, .separator⟩)
  | .members ms, t => ∀ outer,
    Settled ((Progress.reading ⟨.object [] [] :: outer, .firstKey⟩).feed t)
      (.reading ⟨.object ms.reverse [] :: outer, .separator⟩)

/-- The first byte of a number is a minus sign or a digit (`exists_first_digit`). -/
theorem NumberText.exists_first (h : NumberText t) :
    ∃ b rest, t = b :: rest ∧ (b = 0x2d ∨ isDigit b = true) := by
  obtain ⟨_, fraction, exponent, rfl, ⟨sign, digits, rfl, hsign, hdigits⟩, _⟩ := h
  rcases hsign with rfl | rfl
  · obtain ⟨b, rest, rfl, hb⟩ := exists_first_digit hdigits
    exact ⟨b, _, rfl, .inr hb⟩
  · exact ⟨_, _, rfl, .inl rfl⟩

/-- The first byte of a value is neither a space nor the end of an array.

**Proof sketch.** Every value but a number begins with a byte of its own. A number begins with a
minus sign or a digit (`NumberText.exists_first`), and these are neither. -/
theorem Writes.exists_first (h : Writes (.value v) t) :
    ∃ b rest, t = b :: rest ∧ isSpace b = false ∧ (b == 0x5d) = false := by
  cases h with
  | number ht =>
    obtain ⟨b, rest, rfl, rfl | hb⟩ := ht.exists_first
    · exact ⟨_, _, rfl, rfl, rfl⟩
    · exact ⟨b, rest, rfl, not_space_of_isDigit hb, beq_eq_false_of_isDigit hb rfl⟩
  | null | yes | no | text | emptyArray | array | emptyObject | object =>
    exact ⟨_, _, rfl, rfl, rfl⟩

/-- The first item of an array is taken in like any other.

**Proof sketch.** The scanner waits for the end of the array as well, but the first byte of a value
is not the end of one (`Writes.exists_first`). -/
theorem feed_firstItem (h : Writes (.spaced v) t) :
    (Progress.reading ⟨.array [] :: outer, .firstItem⟩).feed t =
      (Progress.reading ⟨.array [] :: outer, .item⟩).feed t := by
  cases h with
  | spaced hbefore ht hafter =>
    obtain ⟨b, rest, rfl, hspace, hend⟩ := ht.exists_first
    have hstep : (Progress.reading ⟨.array [] :: outer, .firstItem⟩).step b =
        (Progress.reading ⟨.array [] :: outer, .item⟩).step b := by
      simp [Progress.step, Scanner.step, hspace, hend]
    rw [List.append_assoc, List.cons_append, feed_append, feed_spaces .firstItem trivial hbefore,
      feed_append, feed_spaces .item trivial hbefore]
    rw [feed_cons, hstep, feed_cons]

/-- The first key of an object is taken in like any other.

**Proof sketch.** The scanner waits for the end of the object as well, but the spaces before a key
are passed over in both cases (`feed_spaces`), and the quote behind them does the same. -/
theorem feed_firstKey {m : List UInt8 × Raw} (h : Writes (.member m) t) :
    (Progress.reading ⟨.object [] [] :: outer, .firstKey⟩).feed t =
      (Progress.reading ⟨.object [] [] :: outer, .key⟩).feed t := by
  cases h with
  | keyed hbefore _ _ _ =>
    rw [feed_append, feed_append, feed_spaces .firstKey trivial hbefore,
      feed_spaces .key trivial hbefore]
    rfl

/-- A text is taken in up to its last quote. -/
theorem feed_text (ht : TextBody t) :
    (Progress.reading ⟨containers, .text false [] .outside⟩).feed (t ++ [0x22]) =
      Scanner.close containers (.text t) := by
  rw [feed_append, feed_textBody ht]
  simp [Progress.feed, Progress.step, Scanner.step, Scanner.closeText]

/-- A key is taken in up to the colon behind it.

**Proof sketch.** The quote begins a text, which is taken in up to its end (`feed_textBody`), where
the second quote makes a key of it. Spaces are passed over (`feed_spaces`), and behind the colon a
value is expected. -/
theorem feed_key {members : List (List UInt8 × Raw)} {key key' : List UInt8} (hkey : TextBody key)
    (hg : Gap g) :
    (Progress.reading ⟨.object members key' :: outer, .key⟩).feed
        (0x22 :: (key ++ 0x22 :: (g ++ 0x3a :: t))) =
      (Progress.reading ⟨.object members key :: outer, .item⟩).feed t := by
  have hend : (Progress.reading ⟨.object members key' :: outer,
      .text true (key.reverse ++ []) .outside⟩).step 0x22 =
        .reading ⟨.object members key :: outer, .colon⟩ := by
    simp [Progress.step, Scanner.step, Scanner.closeText]
  calc (Progress.reading ⟨.object members key' :: outer, .key⟩).feed
        (0x22 :: (key ++ 0x22 :: (g ++ 0x3a :: t)))
      = (Progress.reading ⟨.object members key' :: outer, .text true [] .outside⟩).feed
          (key ++ 0x22 :: (g ++ 0x3a :: t)) := rfl
    _ = (Progress.reading ⟨.object members key :: outer, .colon⟩).feed (g ++ 0x3a :: t) := by
      rw [feed_append, feed_textBody hkey, feed_cons, hend]
    _ = (Progress.reading ⟨.object members key :: outer, .colon⟩).feed (0x3a :: t) := by
      rw [feed_append, feed_spaces .colon trivial hg]
    _ = (Progress.reading ⟨.object members key :: outer, .item⟩).feed t := rfl

/-- An array with nothing in it is taken in up to its last byte. -/
theorem feed_emptyArray (hg : Gap g) :
    (Progress.reading ⟨.array [] :: outer, .firstItem⟩).feed (g ++ [0x5d]) =
      Scanner.close outer (.array []) := by
  rw [feed_append, feed_spaces .firstItem trivial hg]
  rfl

/-- An object with nothing in it is taken in up to its last byte. -/
theorem feed_emptyObject (hg : Gap g) :
    (Progress.reading ⟨.object [] [] :: outer, .firstKey⟩).feed (g ++ [0x7d]) =
      Scanner.close outer (.object []) := by
  rw [feed_append, feed_spaces .firstKey trivial hg]
  rfl

/-- An array is taken in up to its last byte if its items are. -/
theorem feed_array {vs : List Raw} (h : (Part.items vs).Settles t) :
    (Progress.reading ⟨.array [] :: outer, .firstItem⟩).feed (t ++ [0x5d]) =
      Scanner.close outer (.array vs) := by
  rw [feed_append, (h outer).feed (.inr (.inr (.inl rfl)))]
  show Scanner.close outer (.array vs.reverse.reverse) = _
  rw [List.reverse_reverse]

/-- An object is taken in up to its last byte if its members are. -/
theorem feed_object {ms : List (List UInt8 × Raw)} (h : (Part.members ms).Settles t) :
    (Progress.reading ⟨.object [] [] :: outer, .firstKey⟩).feed (t ++ [0x7d]) =
      Scanner.close outer (.object ms) := by
  rw [feed_append, (h outer).feed (.inr (.inr (.inr rfl)))]
  show Scanner.close outer (.object ms.reverse.reverse) = _
  rw [List.reverse_reverse]

/-- What closes the value that comes next settles it. -/
theorem settled_of_close (h : p = Scanner.close (c :: outer) v) :
    Settled p (.reading ⟨c.add v :: outer, .separator⟩) := by
  rw [h, close_cons]
  exact fun _ _ => rfl

/-- **What the grammar lets be written is taken in.**

**Proof sketch.** By induction on what writes the part, with the containers around it general. A
text, a word or a container is complete with its last byte, and closes at once (`settled_of_close`).
A number is closed by the byte behind it (`feed_item_number`, `ends_of_mayEnd`). What follows a
part, a space or a comma or an end, finds the same scanner as if the part had been closed
(`Settled.feed`), so one more item or member goes on from there. -/
theorem Writes.settles {p : Part} (h : Writes p t) : p.Settles t := by
  induction h with
  | null | yes | no => exact fun _ _ => settled_of_close rfl
  | number ht =>
    intro c outer b hb
    obtain ⟨part, hpart, hfeed⟩ := feed_item_number ht
    obtain ⟨hnext, hend⟩ := ends_of_mayEnd hpart hb
    rw [hfeed]
    simp [Progress.step, Scanner.step, hnext, hend, close_cons]
  | text ht => exact fun _ _ => settled_of_close (feed_text ht)
  | emptyArray hg => exact fun _ _ => settled_of_close (feed_emptyArray hg)
  | array _ ih => exact fun _ _ => settled_of_close (feed_array ih)
  | emptyObject hg => exact fun _ _ => settled_of_close (feed_emptyObject hg)
  | object _ ih => exact fun _ _ => settled_of_close (feed_object ih)
  | spaced hbefore _ hafter ih =>
    intro c outer
    rw [List.append_assoc, feed_append, feed_append, feed_spaces .item trivial hbefore]
    exact (ih c outer).feed_gap hafter
  | item ht ih =>
    intro outer
    rw [feed_firstItem ht]
    exact ih (.array []) outer
  | moreItems _ ht ihs ih =>
    intro outer
    rw [feed_append, (ihs outer).feed (.inr (.inl rfl)), List.reverse_concat]
    exact ih _ outer
  | keyed hbefore hkey hafter _ ih =>
    intro members key outer
    rw [feed_append, feed_spaces .key trivial hbefore, feed_key hkey hafter]
    exact ih _ outer
  | member ht ih =>
    intro outer
    rw [feed_firstKey ht]
    exact ih [] [] outer
  | moreMembers _ _ ihs ih =>
    intro outer
    rw [feed_append, (ihs outer).feed (.inr (.inl rfl)), List.reverse_concat]
    exact ih _ _ outer

/-- **A whole array or object is taken in**, and complete with its last byte.

**Proof sketch.** Its first byte is a bracket or a brace, which excludes the other values. The items
or members are taken in by `Writes.settles`, and the last byte closes the outermost container. -/
theorem feed_of_writes {scanner : Scanner} (h : Writes (.value v) (b :: t))
    (hstart : Scanner.start? b = some scanner) :
    (Progress.reading scanner).feed t = .complete v := by
  generalize hbytes : b :: t = bytes at h
  cases h with
  | null | yes | no | text =>
    obtain ⟨rfl, _⟩ := List.cons_eq_cons.mp hbytes
    cases hstart
  | number ht =>
    obtain ⟨d, rest, rfl, hd⟩ := ht.exists_first
    obtain ⟨rfl, _⟩ := List.cons_eq_cons.mp hbytes
    rcases hd with rfl | hd
    · cases hstart
    · have hbracket : (b == 0x5b) = false := beq_eq_false_of_isDigit hd rfl
      have hbrace : (b == 0x7b) = false := beq_eq_false_of_isDigit hd rfl
      simp [Scanner.start?, hbracket, hbrace] at hstart
  | emptyArray hg =>
    obtain ⟨rfl, rfl⟩ := List.cons_eq_cons.mp hbytes
    cases hstart
    exact feed_emptyArray hg
  | array ht =>
    obtain ⟨rfl, rfl⟩ := List.cons_eq_cons.mp hbytes
    cases hstart
    exact feed_array ht.settles
  | emptyObject hg =>
    obtain ⟨rfl, rfl⟩ := List.cons_eq_cons.mp hbytes
    cases hstart
    exact feed_emptyObject hg
  | object ht =>
    obtain ⟨rfl, rfl⟩ := List.cons_eq_cons.mp hbytes
    cases hstart
    exact feed_object ht.settles

end TargetGraph.Json
