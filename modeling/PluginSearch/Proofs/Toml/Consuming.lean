import PluginSearch.Proofs.Toml.RoundTrip

set_option autoImplicit false

namespace PluginSearch.Toml

open Text (Consumes HasLongNumeral LongDigits isNumeral)

variable {α β : Type} {cs digits rest : List Char}

def Failure.IsLong : Failure → Prop
  | .longInteger _ => True
  | .fault _ _ => False

theorem consumes_refuse (f : Fault) (rest cs : List Char) :
    Consumes Failure.IsLong cs (refuse f rest : Except Failure (Read α)) :=
  Consumes.error id

theorem skipBlanks_suffix (cs : List Char) : skipBlanks cs <:+ cs := List.dropWhile_suffix _

theorem suffix_of_skipBlanks {c : Char} (next : skipBlanks cs = c :: rest) : rest <:+ cs :=
  ((List.suffix_cons c rest).trans (next ▸ List.suffix_refl _)).trans (skipBlanks_suffix cs)

theorem trailingQuotes_suffix (quote : Char) (cs : List Char) : (trailingQuotes quote cs).2 <:+ cs :=
  List.drop_suffix _ _

theorem dropLineFeed_suffix (cs : List Char) : dropLineFeed cs <:+ cs := by
  unfold dropLineFeed
  split
  · exact List.suffix_cons _ _
  · exact List.suffix_refl _

theorem escapeStep_not_long {multiline : Bool} {c : Char} {e : Failure}
    (failed : escapeStep multiline c rest = .error e) : ¬ e.IsLong := by
  unfold escapeStep at failed
  -- Only the last case fails.
  repeat (split at failed; · cases failed)
  cases failed
  exact id

theorem consumes_basicString (multiline : Bool) (mode : StringMode) (cs : List Char) :
    Consumes Failure.IsLong cs (basicString multiline mode cs) := by
  have cons {x : Except Failure (Read (List Char))} {cs : List Char}
      (consumes : Consumes Failure.IsLong cs x) (c d : Char) :
      Consumes Failure.IsLong (d :: cs) (x >>= fun r => pure (r.cons c)) :=
    .of_suffix (consumes.bind fun _ _ => .ok (List.suffix_refl _)) (List.suffix_cons d cs)
  fun_induction basicString multiline mode cs with
  | case1 | case2 | case3 | case4 | case10 | case13 | case18 => exact consumes_refuse _ _ _
  | case5 | case7 => exact .error id
  | case6 c rest modes text =>
    refine Consumes.bind_of_not_long (fun _ => escapeStep_not_long) fun r => ?_
    cases r with
    | inl mode => exact (modes mode).of_suffix (List.suffix_cons _ _)
    | inr e => exact cons text e c
  | case8 _ _ _ _ _ _ _ _ _ ih | case11 _ ih | case12 _ _ _ _ ih | case14 _ _ _ _ _ _ _ ih
  | case15 _ _ _ _ _ _ ih => exact ih.of_suffix (List.suffix_cons _ _)
  | case9 _ _ _ _ _ _ _ _ _ _ ih => exact cons ih _ _
  | case16 => exact .ok (List.suffix_cons _ _)
  | case17 =>
    exact .ok (((trailingQuotes_suffix _ _).trans (List.drop_suffix _ _)).trans (List.suffix_cons _ _))
  | case19 _ _ _ _ _ _ _ _ _ _ _ ih => exact cons ih _ _

theorem suffix_of_until? {delimiter body : List Char} (found : until? delimiter cs = some (body, rest)) :
    rest <:+ cs := by
  induction cs generalizing body with
  | nil =>
    unfold until? at found
    split at found <;> cases found
    exact List.suffix_refl _
  | cons c cs ih =>
    unfold until? at found
    split at found
    · cases found
      exact List.suffix_refl _
    · obtain ⟨r, found', same⟩ := Option.map_eq_some_iff.mp found
      cases same
      exact (ih found').trans (List.suffix_cons _ _)

theorem consumes_literalText (delimiter : List Char) (isBad : Char → Bool) (cs : List Char) :
    Consumes Failure.IsLong cs (literalText delimiter isBad cs) := by
  unfold literalText
  split
  · exact consumes_refuse _ _ _
  next found =>
    split
    · exact .ok ((List.drop_suffix _ _).trans (suffix_of_until? found))
    · exact consumes_refuse _ _ _

theorem consumes_longLiteral (cs : List Char) : Consumes Failure.IsLong cs (longLiteral cs) :=
  .of_suffix ((consumes_literalText _ _ _).bind fun _ _ => .ok (trailingQuotes_suffix _ _))
    (dropLineFeed_suffix cs)

theorem consumes_longBasic (cs : List Char) : Consumes Failure.IsLong cs (longBasic cs) :=
  (consumes_basicString _ _ _).of_suffix (dropLineFeed_suffix cs)

theorem consumes_readString? {multilineAllowed : Bool} {r : Except Failure (Read String)}
    (read : readString? multilineAllowed cs = some r) : Consumes Failure.IsLong cs r := by
  unfold readString? at read
  dsimp only at read
  split at read
  · split at read <;> cases read
    · exact .of_suffix (consumes_longBasic _).map ((List.drop_suffix _ _).trans (List.suffix_cons _ _))
    · exact .of_suffix (consumes_basicString _ _ _).map (List.suffix_cons _ _)
  · split at read
    · split at read <;> cases read
      · exact .of_suffix (consumes_longLiteral _).map
          ((List.drop_suffix _ _).trans (List.suffix_cons _ _))
      · exact .of_suffix (consumes_literalText _ _ _).map (List.suffix_cons _ _)
    · cases read
  · cases read

theorem consumes_readKeyPart (cs : List Char) : Consumes Failure.IsLong cs (readKeyPart cs) := by
  unfold readKeyPart
  split
  · cases read : readString? false cs with
    | none => exact consumes_refuse _ _ _
    | some r => exact consumes_readString? read
  · exact .ok (List.dropWhile_suffix _)

theorem consumes_readKeyParts (fuel : Nat) (cs : List Char) :
    Consumes Failure.IsLong cs (readKeyParts fuel cs) := by
  induction fuel generalizing cs with
  | zero => exact consumes_refuse _ _ _
  | succ fuel ih =>
    refine (consumes_readKeyPart cs).bind fun part rest => ?_
    dsimp only
    split
    next next =>
      exact .of_suffix ((ih _).bind fun _ _ => .ok (List.suffix_refl _))
        ((skipBlanks_suffix _).trans (suffix_of_skipBlanks next))
    next => exact .ok (skipBlanks_suffix _)

theorem consumes_readKey (cs : List Char) : Consumes Failure.IsLong cs (readKey cs) :=
  consumes_readKeyParts _ cs

theorem suffix_of_fixedDigits? {width n : Nat} (read : fixedDigits? width cs = some (n, rest)) :
    rest <:+ cs := by
  unfold fixedDigits? at read
  dsimp only at read
  split at read <;> cases read
  exact List.drop_suffix _ _

theorem suffix_of_char? {c : Char} (read : char? c cs = some rest) : rest <:+ cs := by
  unfold char? at read
  split at read
  · split at read <;> cases read
    exact List.suffix_cons _ _
  · cases read

theorem suffix_of_hourMinute? (read : hourMinute? cs = some rest) : rest <:+ cs := by
  simp only [hourMinute?, Option.bind_eq_bind, Option.bind_eq_some_iff] at read
  obtain ⟨⟨_, cs₁⟩, hour, cs₂, colon, ⟨_, cs₃⟩, minute, read⟩ := read
  split at read <;> cases read
  exact ((suffix_of_fixedDigits? minute).trans (suffix_of_char? colon)).trans
    (suffix_of_fixedDigits? hour)

theorem skipFraction_suffix (cs : List Char) : skipFraction cs <:+ cs := by
  unfold skipFraction
  split
  · split
    · exact (List.dropWhile_suffix _).trans ⟨['.', _], rfl⟩
    · exact List.suffix_refl _
  · exact List.suffix_refl _

theorem suffix_of_afterTime? (read : afterTime? cs = some rest) : rest <:+ cs := by
  simp only [afterTime?, Option.bind_eq_bind, Option.bind_eq_some_iff] at read
  obtain ⟨cs₁, minute, cs₂, colon, ⟨_, cs₃⟩, second, read⟩ := read
  split at read <;> cases read
  exact (((skipFraction_suffix _).trans (suffix_of_fixedDigits? second)).trans
    (suffix_of_char? colon)).trans (suffix_of_hourMinute? minute)

theorem skipOffset_suffix (cs : List Char) : skipOffset cs <:+ cs := by
  unfold skipOffset
  split
  next c rest =>
    split
    · exact List.suffix_cons _ _
    · split
      · cases read : hourMinute? rest with
        | none => exact List.suffix_refl _
        | some after => exact (suffix_of_hourMinute? read).trans (List.suffix_cons _ _)
      · exact List.suffix_refl _
  · exact List.suffix_refl _

theorem suffix_of_date? {d : Date} (read : date? cs = some (d, rest)) : rest <:+ cs := by
  simp only [date?, Option.bind_eq_bind, Option.bind_eq_some_iff] at read
  obtain ⟨⟨_, cs₁⟩, year, cs₂, dash, ⟨_, cs₃⟩, month, cs₄, dash', ⟨_, cs₅⟩, day, read⟩ := read
  split at read <;> cases read
  exact ((((suffix_of_fixedDigits? day).trans (suffix_of_char? dash')).trans
    (suffix_of_fixedDigits? month)).trans (suffix_of_char? dash)).trans (suffix_of_fixedDigits? year)

theorem skipTimePart_suffix (cs : List Char) : skipTimePart cs <:+ cs := by
  unfold skipTimePart
  split
  · split
    · split
      next read =>
        exact ((skipOffset_suffix _).trans (suffix_of_afterTime? read)).trans (List.suffix_cons _ _)
      next => exact List.suffix_refl _
    · exact List.suffix_refl _
  · exact List.suffix_refl _

theorem consumes_readMoment? {r : Except Failure (Read Toml)} (read : readMoment? cs = some r) :
    Consumes Failure.IsLong cs r := by
  unfold readMoment? at read
  split at read
  next date =>
    split at read <;> cases read
    · exact .ok ((skipTimePart_suffix _).trans (suffix_of_date? date))
    · exact consumes_refuse _ _ _
  next =>
    obtain ⟨rest, time, rfl⟩ := Option.map_eq_some_iff.mp read
    exact .ok (suffix_of_afterTime? time)

theorem skipDigits_eq (p : Char → Bool) (cs : List Char) :
    ∃ row, cs = row ++ skipDigits p cs ∧ ∀ c ∈ row, p c = true ∨ c = '_' := by
  fun_induction skipDigits p cs with
  | case1 => exact ⟨[], rfl, by simp⟩
  | case2 => exact ⟨[], rfl, by simp⟩
  | case3 c cs digit ih =>
    obtain ⟨row, text, each⟩ := ih
    exact ⟨'_' :: c :: row, by rw [List.cons_append, List.cons_append, ← text], by simpa [digit] using each⟩
  | case4 => exact ⟨[], rfl, by simp⟩
  | case5 c cs _ _ digit ih =>
    obtain ⟨row, text, each⟩ := ih
    exact ⟨c :: row, by rw [List.cons_append, ← text], by simpa [digit] using each⟩
  | case6 => exact ⟨[], rfl, by simp⟩

theorem eq_of_afterDigits? {p : Char → Bool} (read : afterDigits? p cs = some rest) :
    ∃ row, cs = row ++ rest ∧ ∀ c ∈ row, p c = true ∨ c = '_' := by
  unfold afterDigits? at read
  split at read
  next c cs =>
    split at read
    next digit =>
      cases read
      obtain ⟨row, text, each⟩ := skipDigits_eq p cs
      exact ⟨c :: row, by rw [List.cons_append, ← text], by simpa [digit] using each⟩
    next => cases read
  next => cases read

theorem suffix_of_afterDigits? {p : Char → Bool} (read : afterDigits? p cs = some rest) :
    rest <:+ cs := by
  obtain ⟨row, rfl, _⟩ := eq_of_afterDigits? read
  exact List.suffix_append _ _

theorem suffix_of_afterRadixInteger? (read : afterRadixInteger? cs = some rest) : rest <:+ cs := by
  unfold afterRadixInteger? at read
  split at read
  · exact (suffix_of_afterDigits? read).trans ⟨['0', 'x'], rfl⟩
  · exact (suffix_of_afterDigits? read).trans ⟨['0', 'b'], rfl⟩
  · exact (suffix_of_afterDigits? read).trans ⟨['0', 'o'], rfl⟩
  · cases read

theorem skipFractionPart_suffix (cs : List Char) : skipFractionPart cs <:+ cs := by
  unfold skipFractionPart
  split
  next rest =>
    cases read : afterDigits? isDigit rest with
    | none => exact List.suffix_refl _
    | some after => exact (suffix_of_afterDigits? read).trans (List.suffix_cons _ _)
  next => exact List.suffix_refl _

theorem skipSign_suffix (cs : List Char) : skipSign cs <:+ cs := by
  unfold skipSign
  split
  · split
    · exact List.suffix_cons _ _
    · exact List.suffix_refl _
  · exact List.suffix_refl _

theorem skipExponent_suffix (cs : List Char) : skipExponent cs <:+ cs := by
  unfold skipExponent
  split
  next c rest =>
    split
    · cases read : afterDigits? isDigit (skipSign rest) with
      | none => exact List.suffix_refl _
      | some after =>
        exact ((suffix_of_afterDigits? read).trans (skipSign_suffix _)).trans (List.suffix_cons _ _)
    · exact List.suffix_refl _
  next => exact List.suffix_refl _

theorem eq_of_afterIntegerPart? (read : afterIntegerPart? (skipSign cs) = some rest) :
    ∃ row, cs = row ++ rest ∧ ∀ c ∈ row, isNumeral c = true := by
  have digits {row : List Char} (each : ∀ c ∈ row, isDigit c = true ∨ c = '_') :
      ∀ c ∈ row, isNumeral c = true := by
    intro c member
    obtain digit | line := each c member
    · have digit' : Text.isAsciiDigit c = true := digit
      simp [isNumeral, digit']
    · simp [isNumeral, line]
  obtain ⟨row, text, each⟩ : ∃ row, skipSign cs = row ++ rest ∧ ∀ c ∈ row, isNumeral c = true := by
    unfold afterIntegerPart? at read
    split at read
    next zero =>
      cases read
      exact ⟨['0'], zero, by simp [isNumeral, Text.isAsciiDigit]⟩
    next =>
      obtain ⟨row, text, each⟩ := eq_of_afterDigits? read
      exact ⟨row, text, digits each⟩
  unfold skipSign at text
  split at text
  next c tail =>
    split at text
    next sign =>
      refine ⟨c :: row, by rw [text, List.cons_append], List.forall_mem_cons.mpr ⟨?_, each⟩⟩
      obtain rfl | rfl := sign <;> decide
    next => exact ⟨row, text, each⟩
  next => exact ⟨row, text, each⟩

theorem consumes_readDecimal? {r : Except Failure (Read Toml)} (read : readDecimal? cs = some r) :
    Consumes Failure.IsLong cs r := by
  obtain ⟨whole, part, read⟩ := Option.bind_eq_some_iff.mp read
  obtain ⟨row, rfl, each⟩ := eq_of_afterIntegerPart? part
  have suffix : skipExponent (skipFractionPart whole) <:+ whole :=
    (skipExponent_suffix _).trans (skipFractionPart_suffix _)
  have suffix' := suffix.trans (List.suffix_append row whole)
  dsimp only at read
  split at read
  · cases read
    exact .ok suffix'
  next longer =>
    split at read
    next many =>
      cases read
      have kept : skipExponent (skipFractionPart whole) = whole :=
        suffix.eq_of_length_le (Nat.le_of_not_lt longer)
      have taken : (consumed (row ++ whole) whole).toList = row := by
        simp [consumed]
      rw [kept, taken] at many
      exact fun _ => ⟨row, (List.prefix_append row whole).isInfix, each, many⟩
    next =>
      cases read
      exact .ok suffix'

theorem suffix_of_readWord? {r : Read Toml} (read : readWord? cs = some r) : r.2 <:+ cs := by
  obtain ⟨w, _, rfl⟩ := Option.map_eq_some_iff.mp read
  exact List.drop_suffix _ _

theorem consumes_readLiteral (cs : List Char) : Consumes Failure.IsLong cs (readLiteral cs) := by
  unfold readLiteral
  cases moment : readMoment? cs with
  | some r => exact consumes_readMoment? moment
  | none =>
    cases radix : afterRadixInteger? cs with
    | some rest => exact .ok (suffix_of_afterRadixInteger? radix)
    | none =>
      cases decimal : readDecimal? cs with
      | some r => exact consumes_readDecimal? decimal
      | none =>
        cases word : readWord? cs with
        | some r => exact .ok (suffix_of_readWord? word)
        | none => exact consumes_refuse _ _ _

theorem consumes_skipGap {f : List Char → Except Failure (Read α)}
    (next : ∀ rest, Consumes Failure.IsLong rest (f rest)) (inComment : Bool) (cs : List Char) :
    Consumes Failure.IsLong cs (skipGap inComment cs >>= f) := by
  fun_induction skipGap inComment cs with
  | case1 => exact next []
  | case2 _ ih | case4 _ _ _ _ ih | case5 _ ih | case6 _ _ _ _ ih =>
    exact ih.of_suffix (List.suffix_cons _ _)
  | case3 => exact .error id
  | case7 c cs => exact next (c :: cs)

theorem faultAt_not_long {x : Except Fault β} {e : Failure} (failed : faultAt rest x = .error e) :
    ¬ e.IsLong := by
  cases x with
  | ok b => cases failed
  | error f =>
    cases failed
    exact id

section Step

variable {fuel : Nat} (values : ∀ cs, Consumes Failure.IsLong cs (readValue fuel cs))
  (items : ∀ cs, Consumes Failure.IsLong cs (readItems fuel cs))
  (pairs : ∀ cs, Consumes Failure.IsLong cs (readPair fuel cs))
  (inline' : ∀ closed fields cs, Consumes Failure.IsLong cs (readInline fuel closed fields cs))

include items inline' in
theorem consumes_readValue_succ (cs : List Char) :
    Consumes Failure.IsLong cs (readValue (fuel + 1) cs) := by
  rw [readValue.eq_def]
  dsimp only
  split
  next read => exact (consumes_readString? read).map
  next =>
    split
    next rest =>
      refine .of_suffix (consumes_skipGap (fun rest => ?_) _ _) (List.suffix_cons _ _)
      split
      · exact .ok (List.suffix_cons _ _)
      · exact (items _).bind fun _ _ => .ok (List.suffix_refl _)
    next rest =>
      refine .of_suffix ?_ (List.suffix_cons _ _)
      split
      next next => exact .ok (suffix_of_skipBlanks next)
      next =>
        exact .of_suffix ((inline' _ _ _).bind fun _ _ => .ok (List.suffix_refl _)) (skipBlanks_suffix _)
    next => exact consumes_readLiteral _

include values items in
theorem consumes_readItems_succ (cs : List Char) :
    Consumes Failure.IsLong cs (readItems (fuel + 1) cs) := by
  rw [readItems]
  refine (values cs).bind fun item rest => consumes_skipGap (fun rest => ?_) _ _
  split
  · exact .ok (List.suffix_cons _ _)
  · refine .of_suffix (consumes_skipGap (fun rest => ?_) _ _) (List.suffix_cons _ _)
    split
    · exact .ok (List.suffix_cons _ _)
    · exact (items _).bind fun _ _ => .ok (List.suffix_refl _)
  · exact consumes_refuse _ _ _

include values in
theorem consumes_readPair_succ (cs : List Char) :
    Consumes Failure.IsLong cs (readPair (fuel + 1) cs) := by
  rw [readPair]
  refine (consumes_readKey cs).bind fun key rest => ?_
  dsimp only
  split
  · exact .of_suffix ((values _).bind fun _ _ => .ok (List.suffix_refl _))
      ((skipBlanks_suffix _).trans (List.suffix_cons _ _))
  · exact consumes_refuse _ _ _

include pairs inline' in
theorem consumes_readInline_succ (closed : List Key) (fields : Fields) (cs : List Char) :
    Consumes Failure.IsLong cs (readInline (fuel + 1) closed fields cs) := by
  rw [readInline]
  refine (pairs cs).bind fun pair rest => ?_
  refine Consumes.bind_of_not_long (fun _ => faultAt_not_long) fun fields => ?_
  split
  next next => exact .ok (suffix_of_skipBlanks next)
  next next =>
    exact (inline' _ _ _).of_suffix ((skipBlanks_suffix _).trans (suffix_of_skipBlanks next))
  next => exact consumes_refuse _ _ _

end Step

-- By induction on the fuel, all four readers at once.
theorem consumes_readers (fuel : Nat) :
    (∀ cs, Consumes Failure.IsLong cs (readValue fuel cs)) ∧
      (∀ cs, Consumes Failure.IsLong cs (readItems fuel cs)) ∧
      (∀ cs, Consumes Failure.IsLong cs (readPair fuel cs)) ∧
      ∀ closed fields cs, Consumes Failure.IsLong cs (readInline fuel closed fields cs) := by
  induction fuel with
  | zero =>
    refine ⟨fun cs => ?_, fun cs => ?_, fun cs => ?_, fun closed fields cs => ?_⟩
    · rw [readValue]
      exact consumes_refuse _ _ _
    · rw [readItems]
      exact consumes_refuse _ _ _
    · rw [readPair]
      exact consumes_refuse _ _ _
    · rw [readInline]
      exact consumes_refuse _ _ _
  | succ fuel ih =>
    obtain ⟨values, items, pairs, inline'⟩ := ih
    exact ⟨consumes_readValue_succ items inline', consumes_readItems_succ values items,
      consumes_readPair_succ values, consumes_readInline_succ pairs inline'⟩

namespace Document

theorem consumes_readHeader (d : Document) (isArray : Bool) (cs : List Char) :
    Consumes Failure.IsLong cs (d.readHeader isArray cs) := by
  unfold readHeader
  refine .of_suffix ((consumes_readKey _).bind fun key rest => ?_) (skipBlanks_suffix _)
  refine Consumes.bind_of_not_long (fun _ => faultAt_not_long) fun d => ?_
  split
  · exact .ok (List.suffix_cons _ _)
  · exact .ok ⟨[']', ']'], rfl⟩
  · exact consumes_refuse _ _ _
  · exact consumes_refuse _ _ _

theorem consumes_readStatement (d : Document) (cs : List Char) :
    Consumes Failure.IsLong cs (d.readStatement cs) := by
  unfold readStatement
  split
  · exact (consumes_readHeader _ _ _).of_suffix ⟨['[', '['], rfl⟩
  · exact (consumes_readHeader _ _ _).of_suffix (List.suffix_cons _ _)
  · split
    · exact .ok (List.suffix_refl _)
    · split
      · refine ((consumes_readers _).2.2.1 _).bind fun pair rest => ?_
        exact Consumes.bind_of_not_long (fun _ => faultAt_not_long) fun d => .ok (List.suffix_refl _)
      · exact consumes_refuse _ _ _
  · exact .ok (List.suffix_refl _)

theorem skipComment_suffix (skipped : skipComment cs = .ok rest) : rest <:+ cs := by
  unfold skipComment at skipped
  split at skipped
  next cs =>
    have suffix := (List.dropWhile_suffix (fun c => c ≠ '\n' && !isControl c)).trans
      (List.suffix_cons '#' cs)
    split at skipped
    next =>
      cases skipped
      exact List.nil_suffix
    next line =>
      split at skipped <;> cases skipped
      exact line ▸ suffix
  next =>
    cases skipped
    exact List.suffix_refl _

theorem skipComment_not_long {e : Failure} (failed : skipComment cs = .error e) : ¬ e.IsLong := by
  unfold skipComment at failed
  split at failed
  · split at failed
    · cases failed
    · split at failed <;> cases failed
      exact id
  · cases failed

-- By induction on the statements: a failure over a number comes from one of them.
theorem hasLongNumeral_of_readStatements {fuel n : Nat} {d : Document}
    (failed : readStatements fuel d cs = .error (.longInteger n)) : HasLongNumeral cs := by
  induction fuel generalizing d cs with
  | zero => cases failed
  | succ fuel ih =>
    rw [readStatements] at failed
    have statement := consumes_readStatement d (skipBlanks cs)
    cases read : d.readStatement (skipBlanks cs) with
    | error e =>
      rw [read] at failed statement
      cases failed
      exact (statement trivial).of_suffix (skipBlanks_suffix cs)
    | ok r =>
      obtain ⟨d', rest⟩ := r
      rw [read] at failed statement
      simp only [bind, Except.bind] at failed
      cases skipped : skipComment (skipBlanks rest) with
      | error e =>
        rw [skipped] at failed
        cases failed
        exact absurd trivial (skipComment_not_long skipped)
      | ok rest' =>
        rw [skipped] at failed
        dsimp only at failed
        split at failed
        · cases failed
        next line =>
          have suffix : line <:+ cs := (((List.suffix_cons '\n' line).trans
            (skipComment_suffix skipped)).trans (skipBlanks_suffix rest)).trans
              (List.IsSuffix.trans statement (skipBlanks_suffix cs))
          exact (ih failed).of_suffix suffix
        · cases failed

end Document

theorem hasLongNumeral_of_parse {n : Nat} (failed : parse cs = .error (.longInteger n)) :
    HasLongNumeral (Text.dropCarriageReturns cs) := by
  unfold parse at failed
  dsimp only at failed
  split at failed
  · cases failed
  · cases failed
  · cases failed
  next read =>
    cases failed
    exact Document.hasLongNumeral_of_readStatements read

-- After digits that all count stands no mark of a date or of a time.
theorem fixedDigits?_char? (width : Nat) (mark : Char) (other : isDigit mark = false)
    (each : ∀ d ∈ digits, isDigit d = true) :
    (fixedDigits? width digits).bind (fun r => char? mark r.2) = none := by
  unfold fixedDigits?
  dsimp only
  split
  next =>
    rw [Option.bind_some]
    cases rest : digits.drop width with
    | nil => rfl
    | cons d ds =>
      have digit : isDigit d = true := each d (List.mem_of_mem_drop (rest ▸ List.mem_cons_self))
      rw [char?, if_neg (Text.ne_of_isAsciiDigit digit other)]
  next => rfl

theorem readMoment?_digits (each : ∀ d ∈ digits, isDigit d = true) : readMoment? digits = none := by
  have date : date? digits = none := by
    have stop := fixedDigits?_char? 4 '-' rfl each
    simp only [date?, Option.bind_eq_bind]
    cases year : fixedDigits? 4 digits with
    | none => rfl
    | some r =>
      rw [year, Option.bind_some] at stop
      simp only [Option.bind_some, stop, Option.bind_none]
  have time : afterTime? digits = none := by
    have stop := fixedDigits?_char? 2 ':' rfl each
    simp only [afterTime?, hourMinute?, Option.bind_eq_bind]
    cases hour : fixedDigits? 2 digits with
    | none => rfl
    | some r =>
      rw [hour, Option.bind_some] at stop
      simp only [Option.bind_some, stop, Option.bind_none]
  rw [readMoment?, date, time]
  rfl

theorem skipDigits_all (each : ∀ d ∈ digits, isDigit d = true) : skipDigits isDigit digits = [] := by
  fun_induction skipDigits isDigit digits with
  | case1 => rfl
  | case2 => exact absurd (each '_' List.mem_cons_self) (by decide)
  | case3 => exact absurd (each '_' List.mem_cons_self) (by decide)
  | case4 => exact absurd (each '_' List.mem_cons_self) (by decide)
  | case5 c cs _ _ _ ih => exact ih fun d member => each d (List.mem_cons_of_mem c member)
  | case6 c cs _ _ no => exact absurd (each c List.mem_cons_self) no

theorem readLiteral_long (long : LongDigits digits) :
    readLiteral digits = .error (.longInteger digits.length) := by
  have moment := readMoment?_digits long.each
  have many := long.many
  have all : digits.filter isDigit = digits := List.filter_eq_self.mpr long.each
  have each := long.each
  obtain ⟨d, ds, rfl, digit, nonzero⟩ := long.exists_cons
  have radix : afterRadixInteger? (d :: ds) = none := by
    unfold afterRadixInteger?
    split <;> first | rfl | exact absurd (List.cons.inj ‹_›).1 nonzero
  have unsigned : skipSign (d :: ds) = d :: ds := by
    rw [skipSign, if_neg]
    rintro (rfl | rfl) <;> cases digit
  have whole : afterIntegerPart? (d :: ds) = some [] := by
    rw [afterIntegerPart?]
    · have later := skipDigits_all fun c member => each c (List.mem_cons_of_mem d member)
      rw [afterDigits?, if_pos (show isDigit d = true from digit), later]
    · rintro rest same
      exact nonzero (List.cons.inj same).1
  have decimal : readDecimal? (d :: ds) = some (.error (.longInteger (ds.length + 1))) := by
    have taken : (consumed (d :: ds) []).toList = d :: ds := by simp [consumed]
    have rest : skipExponent (skipFractionPart []) = [] := rfl
    have many' : Integer.maxDigits < ds.length + 1 := many
    simp only [readDecimal?, unsigned, whole, Option.bind_eq_bind, Option.bind_some, rest, taken, all]
    simp [many']
  rw [readLiteral, moment, radix, decimal]
  rfl

theorem readValue_long (long : LongDigits digits) (fuel : Nat) :
    readValue (fuel + 1) digits = .error (.longInteger digits.length) := by
  have literal := readLiteral_long long
  obtain ⟨d, ds, rfl, digit, _⟩ := long.exists_cons
  have other (c : Char) (no : Text.isAsciiDigit c = false) : d ≠ c := Text.ne_of_isAsciiDigit digit no
  have noString : readString? true (d :: ds) = none := by
    rw [readString?]
    · rw [if_neg (other apostrophe rfl)]
    · exact other '"' rfl
  rw [readValue, noString]
  · exact literal
  · rintro rest same
    exact other '[' rfl (List.cons.inj same).1
  · rintro rest same
    exact other '\x7b' rfl (List.cons.inj same).1

-- A setting on the first line.
theorem parse_long {name : String} (bare : Bare name) (long : LongDigits digits) :
    parse (name.toList ++ ' ' :: '=' :: ' ' :: digits) = .error (.longInteger digits.length) := by
  have clean : '\r' ∉ name.toList ++ ' ' :: '=' :: ' ' :: digits := by
    have noName : '\r' ∉ name.toList := fun member => absurd (bare.2 _ member) (by decide)
    have noDigits : '\r' ∉ digits := fun member => absurd (long.each _ member) (by decide)
    simp [noName, noDigits]
  have value (fuel : Nat) : readValue (fuel + 1) (skipBlanks (' ' :: digits)) =
      .error (.longInteger digits.length) := by
    have start : skipBlanks (' ' :: digits) = digits := by
      obtain ⟨d, ds, rfl, digit, _⟩ := long.exists_cons
      have other (c : Char) (no : Text.isAsciiDigit c = false) : d ≠ c :=
        Text.ne_of_isAsciiDigit digit no
      simp [skipBlanks, isBlank, other ' ' rfl, other '\t' rfl]
    rw [start, readValue_long long]
  have statement (d : Document) : d.readStatement (name.toList ++ ' ' :: '=' :: ' ' :: digits) =
      .error (.longInteger digits.length) := by
    obtain ⟨fuel, enough⟩ : ∃ fuel, fuelFor (name.toList ++ ' ' :: '=' :: ' ' :: digits) = fuel + 2 :=
      ⟨_, rfl⟩
    rw [readStatement_bare bare, enough, readPair_bare bare, value]
    rfl
  rw [parse, Text.dropCarriageReturns_of_not_mem clean]
  simp only [Document.readStatements, bare.skipBlanks, statement]
  rfl

end PluginSearch.Toml
