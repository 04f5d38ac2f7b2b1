import StoringDevices.Strptime

/-! # The date pattern

The date pattern wants a character from 1 to 3 between the month and the time.
On a line whose day has one, or that holds another time further on, the match
starts at the header, and the header is read back from it.  On the 4th to the 9th
of a month nothing is found before a line terminator; what is found after one is
the first date there, and how much of the line it holds makes no difference to
what is read of it. -/
set_option autoImplicit false

namespace StoringDevices

open Regex (Matches)

/-! ## What the pattern finds -/

/-- The characters the class `[1-31]` accepts. -/
def isOneToThree (c : Char) : Bool := ('1' ≤ c && c ≤ '3') || c = '1'

def IsClock (s : CppString) : Prop :=
  ∃ a b c d e f : Char, (isDigit a = true ∧ isDigit b = true ∧ isDigit c = true ∧
    isDigit d = true ∧ isDigit e = true ∧ isDigit f = true) ∧ s = [a, b, ':', c, d, ':', e, f]

def NoTerminator (s : CppString) : Prop := ∀ c ∈ s, c ≠ '\n' ∧ c ≠ '\r'

theorem matches_anyChars_iff (w : CppString) : Matches (.star anyChar) w ↔ NoTerminator w := by
  unfold anyChar NoTerminator
  rw [Regex.matches_star_one_iff]
  simp

theorem matches_letter_iff (w : CppString) :
    Matches (.alt (.one fun c => 'A' ≤ c && c ≤ 'Z') (.one fun c => 'a' ≤ c && c ≤ 'z')) w ↔
      ∃ c, isLetter c = true ∧ w = [c] := by
  rw [Regex.matches_alt_iff, Regex.matches_one_iff, Regex.matches_one_iff]
  simp only [isLetter, Bool.or_eq_true]
  constructor
  · intro h
    rcases h with ⟨c, upper, rfl⟩ | ⟨c, lower, rfl⟩
    · exact ⟨c, .inl upper, rfl⟩
    · exact ⟨c, .inr lower, rfl⟩
  · intro h
    obtain ⟨c, upper | lower, rfl⟩ := h
    · exact .inl ⟨c, upper, rfl⟩
    · exact .inr ⟨c, lower, rfl⟩

theorem matches_clock_iff (w : CppString) :
    Matches (.seq (.seq digit digit) (.seq (Regex.literal ":".toList) (.seq (.seq digit digit)
      (.seq (Regex.literal ":".toList) (.seq digit digit))))) w ↔ IsClock w := by
  unfold digit IsClock
  simp only [Regex.matches_seq_iff, Regex.matches_one_iff, Regex.matches_literal_iff]
  constructor
  · intro h
    obtain ⟨_, _, rfl, ⟨_, _, rfl, ⟨a, ha, rfl⟩, b, hb, rfl⟩, _, _, rfl, rfl, _, _, rfl,
      ⟨_, _, rfl, ⟨c, hc, rfl⟩, d, hd, rfl⟩, _, _, rfl, rfl, _, _, rfl, ⟨e, he, rfl⟩, f, hf, rfl⟩ := h
    exact ⟨a, b, c, d, e, f, ⟨ha, hb, hc, hd, he, hf⟩, rfl⟩
  · intro h
    obtain ⟨a, b, c, d, e, f, ⟨ha, hb, hc, hd, he, hf⟩, rfl⟩ := h
    exact ⟨[a, b], [':', c, d, ':', e, f], rfl, ⟨[a], [b], rfl, ⟨a, ha, rfl⟩, b, hb, rfl⟩,
      [':'], [c, d, ':', e, f], rfl, rfl, [c, d], [':', e, f], rfl,
      ⟨[c], [d], rfl, ⟨c, hc, rfl⟩, d, hd, rfl⟩, [':'], [e, f], rfl, rfl, [e], [f], rfl,
      ⟨e, he, rfl⟩, f, hf, rfl⟩

/-- Three letters, a character from 1 to 3, and a time. -/
theorem matches_dateRegex_iff (w : CppString) : Matches dateRegex w ↔
    ∃ x y z before d between clock, w = x :: y :: z :: (before ++ d :: (between ++ clock)) ∧
      (isLetter x = true ∧ isLetter y = true ∧ isLetter z = true) ∧ NoTerminator before ∧
      isOneToThree d = true ∧ NoTerminator between ∧ IsClock clock := by
  constructor
  · intro run
    obtain ⟨_, _, rfl, first, fromSecond⟩ := (Regex.matches_seq_iff _ _ _).mp run
    obtain ⟨_, _, rfl, second, fromThird⟩ := (Regex.matches_seq_iff _ _ _).mp fromSecond
    obtain ⟨_, _, rfl, third, fromBefore⟩ := (Regex.matches_seq_iff _ _ _).mp fromThird
    obtain ⟨before, _, rfl, free, fromDay⟩ := (Regex.matches_seq_iff _ _ _).mp fromBefore
    obtain ⟨_, _, rfl, shown, fromBetween⟩ := (Regex.matches_seq_iff _ _ _).mp fromDay
    obtain ⟨between, clock, rfl, free', last⟩ := (Regex.matches_seq_iff _ _ _).mp fromBetween
    obtain ⟨x, hx, rfl⟩ := (matches_letter_iff _).mp first
    obtain ⟨y, hy, rfl⟩ := (matches_letter_iff _).mp second
    obtain ⟨z, hz, rfl⟩ := (matches_letter_iff _).mp third
    obtain ⟨d, hd, rfl⟩ := (Regex.matches_one_iff _ _).mp shown
    exact ⟨x, y, z, before, d, between, clock, rfl, ⟨hx, hy, hz⟩,
      (matches_anyChars_iff before).mp free, hd, (matches_anyChars_iff between).mp free',
      (matches_clock_iff clock).mp last⟩
  · intro h
    obtain ⟨x, y, z, before, d, between, clock, rfl, ⟨hx, hy, hz⟩, free, hd, free', isClock⟩ := h
    have tail := Matches.seq ((matches_anyChars_iff between).mpr free')
      ((matches_clock_iff clock).mpr isClock)
    have shown := Matches.seq ((Regex.matches_one_iff isOneToThree [d]).mpr ⟨d, hd, rfl⟩) tail
    have rest := Matches.seq ((matches_anyChars_iff before).mpr free) shown
    have third := Matches.seq ((matches_letter_iff [z]).mpr ⟨z, hz, rfl⟩) rest
    have second := Matches.seq ((matches_letter_iff [y]).mpr ⟨y, hy, rfl⟩) third
    exact Matches.seq ((matches_letter_iff [x]).mpr ⟨x, hx, rfl⟩) second

/-! ## Where a match begins and ends -/

/-- The day, as the header writes it, has a character from 1 to 3. -/
def ShowsDay (time : SyslogTime) : Prop := time.day < 4 ∨ 9 < time.day

/-- Past the day there is a character from 1 to 3 with a time after it. -/
def LaterClock (text : CppString) : Prop :=
  ∃ before d between clock after, text = before ++ d :: (between ++ (clock ++ after)) ∧
    7 ≤ before.length ∧ NoTerminator before ∧ isOneToThree d = true ∧ NoTerminator between ∧
    IsClock clock

theorem paddedDay_eq (n : Nat) : ∃ p q : Char, paddedDay n = [p, q] := by
  unfold paddedDay
  split
  · exact ⟨_, _, rfl⟩
  · exact ⟨_, _, rfl⟩

theorem isOneToThree_digitChar {d : Nat} (small : d < 10) :
    isOneToThree (digitChar d) = true ↔ 1 ≤ d ∧ d ≤ 3 := by
  have each : ∀ d < 10, isOneToThree (digitChar d) = true ↔ 1 ≤ d ∧ d ≤ 3 := by decide
  exact each d small

theorem showsDay_iff (time : SyslogTime) {p q : Char} (day : paddedDay time.day = [p, q]) :
    isOneToThree p = true ∨ isOneToThree q = true ↔ ShowsDay time := by
  have pos := time.day_pos
  have high := time.day_le_31
  unfold ShowsDay
  unfold paddedDay at day
  split at day
  · next small =>
      cases day
      rw [isOneToThree_digitChar small]
      have blank : isOneToThree ' ' = false := rfl
      rw [blank]
      simp only [Bool.false_eq_true, false_or]
      omega
  · cases day
    have tens := isOneToThree_digitChar (d := time.day / 10) (by omega)
    constructor
    · intro _
      omega
    · intro _
      exact .inl (tens.mpr (by omega))

theorem isClock_clockText (time : SyslogTime) : IsClock time.clockText := by
  have hour := time.hour_lt
  have minute := time.minute_lt
  have second := time.second_lt
  refine ⟨_, _, _, _, _, _, ⟨?_, ?_, ?_, ?_, ?_, ?_⟩, rfl⟩
  all_goals exact isDigit_digitChar (by omega)

theorem text_eq (time : SyslogTime) {x y z p q : Char}
    (month : (abMonth.get time.month).toList = [x, y, z]) (day : paddedDay time.day = [p, q])
    (more : CppString) : time.text ++ more =
      x :: y :: z :: ' ' :: p :: q :: ' ' :: (time.clockText ++ more) := by
  unfold SyslogTime.text
  rw [month, day]
  simp

/-- A time after the month does not begin before the header's own: the blanks
on both sides of the day are no part of one. -/
theorem clock_past_day {mid clock after tail : CppString} {p q : Char} (isClock : IsClock clock)
    (some : mid ≠ []) (split : mid ++ (clock ++ after) = ' ' :: p :: q :: ' ' :: tail) :
    ∃ rest, mid = ' ' :: p :: q :: ' ' :: rest := by
  obtain ⟨a, b, c, d, e, f, ⟨isDigit, isDigit', _, _, _, _⟩, rfl⟩ := isClock
  have blank : ∀ c : Char, StoringDevices.isDigit c = true → c ≠ ' ' := by
    intro c digit same
    rw [same] at digit
    cases digit
  match mid with
  | [] => exact absurd rfl some
  | [_] =>
      simp only [List.cons_append, List.nil_append, List.cons.injEq] at split
      exact absurd split.2.2.2.1 (by decide)
  | [_, _] =>
      simp only [List.cons_append, List.nil_append, List.cons.injEq] at split
      exact absurd split.2.2.2.1 (blank b isDigit')
  | [_, _, _] =>
      simp only [List.cons_append, List.nil_append, List.cons.injEq] at split
      exact absurd split.2.2.2.1 (blank a isDigit)
  | _ :: _ :: _ :: _ :: rest =>
      simp only [List.cons_append, List.cons.injEq] at split
      obtain ⟨rfl, rfl, rfl, rfl, _⟩ := split
      exact ⟨rest, rfl⟩

theorem isClock_length {clock : CppString} (isClock : IsClock clock) : clock.length = 8 := by
  obtain ⟨_, _, _, _, _, _, _, rfl⟩ := isClock
  rfl

theorem notBlank_of_isOneToThree {d : Char} (shown : isOneToThree d = true) : d ≠ ' ' := by
  intro same
  rw [same] at shown
  cases shown

theorem NoTerminator.append {s s' : CppString} (front : NoTerminator s) (back : NoTerminator s') :
    NoTerminator (s ++ s') := by
  intro c member
  rcases List.mem_append.mp member with inFront | inBack
  · exact front c inFront
  · exact back c inBack

theorem noTerminator_of_inLine {s : CppString} (inLine : ∀ c ∈ s, isInLine c = true) :
    NoTerminator s := by
  intro c member
  have here := inLine c member
  simp only [isInLine, Bool.and_eq_true, decide_eq_true_eq] at here
  exact here.1

/-- A match at the header holds all of it. -/
theorem header_of_match {time : SyslogTime} {more w : CppString}
    (begins : w <+: time.text ++ (' ' :: more)) (run : Matches dateRegex w) :
    (∃ rest, w = time.text ++ rest) ∧ (ShowsDay time ∨ LaterClock (time.text ++ (' ' :: more))) := by
  obtain ⟨after, split⟩ := begins
  obtain ⟨x, y, z, before, d, between, clock, rfl, _, free, shown, free', isClock⟩ :=
    (matches_dateRegex_iff w).mp run
  obtain ⟨_, _, _, month, _, inLine⟩ := abMonth_letters time.month
  obtain ⟨p, q, day⟩ := paddedDay_eq time.day
  have text := text_eq time month day
  have whole := split
  rw [text] at split
  simp only [List.cons_append, List.append_assoc, List.cons.injEq] at split
  obtain ⟨rfl, rfl, rfl, split⟩ := split
  have joined : (before ++ d :: between) ++ (clock ++ after) =
      ' ' :: p :: q :: ' ' :: (time.clockText ++ ' ' :: more) := by
    rw [← split]
    simp
  obtain ⟨rest, past⟩ := clock_past_day isClock (by simp) joined
  constructor
  · have same : rest ++ clock ++ after = time.clockText ++ (' ' :: more) := by
      rw [past] at joined
      simpa using joined
    have long : time.clockText.length ≤ (rest ++ clock).length := by
      rw [isClock_length (isClock_clockText time), List.length_append, isClock_length isClock]
      omega
    obtain ⟨tail, shape⟩ := List.prefix_of_prefix_length_le
      (List.prefix_append time.clockText (' ' :: more)) ⟨after, same⟩ long
    refine ⟨tail, ?_⟩
    have middle : before ++ d :: (between ++ clock) = ' ' :: p :: q :: ' ' :: (rest ++ clock) := by
      have longer := congrArg (fun mid => mid ++ clock) past
      simpa using longer
    rw [text tail, shape, middle]
  · match before with
    | [] =>
        cases past
        exact absurd rfl (notBlank_of_isOneToThree shown)
    | [_] =>
        cases past
        exact .inl ((showsDay_iff time day).mp (.inl shown))
    | [_, _] =>
        cases past
        exact .inl ((showsDay_iff time day).mp (.inr shown))
    | [_, _, _] =>
        cases past
        exact absurd rfl (notBlank_of_isOneToThree shown)
    | a :: b :: c :: e :: before =>
        have letters : NoTerminator [x, y, z] := by
          apply noTerminator_of_inLine
          intro c member
          simp only [List.mem_cons, List.not_mem_nil, or_false] at member
          rcases member with rfl | rfl | rfl
          · exact inLine.1
          · exact inLine.2.1
          · exact inLine.2.2
        refine .inr ⟨[x, y, z] ++ a :: b :: c :: e :: before, d, between, clock, after, ?_, ?_,
          letters.append free, shown, free', isClock⟩
        · rw [← whole]
          simp
        · simp only [List.length_append, List.length_cons]
          omega

/-- Where a match can begin at the header, one does. -/
theorem match_of_header {time : SyslogTime} {more : CppString}
    (seen : ShowsDay time ∨ LaterClock (time.text ++ (' ' :: more))) :
    ∃ w, w <+: time.text ++ (' ' :: more) ∧ Matches dateRegex w := by
  obtain ⟨x, y, z, month, letters, inLine⟩ := abMonth_letters time.month
  obtain ⟨p, q, day⟩ := paddedDay_eq time.day
  have text := text_eq time month day
  have dayInLine := paddedDay_inLine time
  rw [day] at dayInLine
  rcases seen with shows | later
  · have header : time.text = x :: y :: z :: ' ' :: p :: q :: ' ' :: time.clockText := by
      simpa using text []
    refine ⟨time.text, List.prefix_append _ _, (matches_dateRegex_iff _).mpr ?_⟩
    have blank : isInLine ' ' = true := by decide
    rcases (showsDay_iff time day).mpr shows with first | second
    · have free : isInLine q = true := dayInLine q (by simp)
      exact ⟨x, y, z, [' '], p, [q, ' '], time.clockText, header, letters,
        noTerminator_of_inLine (by simp [blank]), first,
        noTerminator_of_inLine (by simp [blank, free]), isClock_clockText time⟩
    · have free : isInLine p = true := dayInLine p (by simp)
      exact ⟨x, y, z, [' ', p], q, [' '], time.clockText, header, letters,
        noTerminator_of_inLine (by simp [blank, free]), second,
        noTerminator_of_inLine (by simp [blank]), isClock_clockText time⟩
  · obtain ⟨before, d, between, clock, after, split, long, free, shown, free', isClock⟩ := later
    match before with
    | x' :: y' :: z' :: before =>
        have shape := split
        rw [text] at shape
        simp only [List.cons_append, List.cons.injEq] at shape
        obtain ⟨rfl, rfl, rfl, _⟩ := shape
        refine ⟨x :: y :: z :: (before ++ d :: (between ++ clock)), ⟨after, ?_⟩,
          (matches_dateRegex_iff _).mpr ?_⟩
        · rw [split]
          simp
        · refine ⟨x, y, z, before, d, between, clock, rfl, letters, ?_, shown, free', isClock⟩
          intro c member
          exact free c (by simp [member])

/-- The date found on a line whose header it begins in. -/
theorem search_header {time : SyslogTime} {more : CppString}
    (seen : ShowsDay time ∨ LaterClock (time.text ++ (' ' :: more))) :
    ∃ found rest, Regex.search dateRegex (time.text ++ (' ' :: more)) = some found ∧
      found.text = time.text ++ rest := by
  obtain ⟨found, success, begins, run⟩ := Regex.search_of_prefix (match_of_header seen)
  obtain ⟨rest, whole⟩ := (header_of_match begins run).1
  exact ⟨found, rest, success, whole⟩

/-- Before a line terminator, a date that occurs anywhere could also begin in
the header. -/
theorem seen_of_occurs {time : SyslogTime} {more : CppString} (free : NoTerminator more)
    (occurs : Regex.Occurs dateRegex (time.text ++ (' ' :: more))) :
    ShowsDay time ∨ LaterClock (time.text ++ (' ' :: more)) := by
  obtain ⟨a, w, after, split, run⟩ := occurs
  obtain ⟨x, y, z, before, d, between, clock, rfl, _, _, shown, free', isClock⟩ :=
    (matches_dateRegex_iff w).mp run
  obtain ⟨x', y', z', month, letters, _⟩ := abMonth_letters time.month
  obtain ⟨p, q, day⟩ := paddedDay_eq time.day
  have text := text_eq time month day
  have blank : NoTerminator [' '] := by simp [NoTerminator]
  have allFree : NoTerminator (time.text ++ (' ' :: more)) :=
    (noTerminator_of_inLine (text_inLine time)).append (blank.append free)
  have shifted : (a ++ x :: y :: z :: before) ++ (d :: (between ++ (clock ++ after))) =
      time.text ++ (' ' :: more) := by
    rw [split]
    simp
  have long : 3 ≤ (a ++ x :: y :: z :: before).length := by
    simp only [List.length_append, List.length_cons]
    omega
  have month' : [x', y', z'] <+: time.text ++ (' ' :: more) := ⟨_, (text _).symm⟩
  obtain ⟨front, begins⟩ := List.prefix_of_prefix_length_le month' ⟨_, shifted⟩ long
  rw [← begins] at shifted
  have freeFront : NoTerminator front := by
    intro c member
    apply allFree c
    rw [← shifted]
    simp [member]
  have here := (matches_dateRegex_iff ([x', y', z'] ++ (front ++ d :: (between ++ clock)))).mpr
    ⟨x', y', z', front, d, between, clock, rfl, letters, freeFront, shown, free', isClock⟩
  refine (header_of_match ⟨after, ?_⟩ here).2
  rw [← shifted]
  simp

theorem LaterClock.append {text : CppString} (later : LaterClock text) (more : CppString) :
    LaterClock (text ++ more) := by
  obtain ⟨before, d, between, clock, after, rfl, rest⟩ := later
  exact ⟨before, d, between, clock, after ++ more, by simp, rest⟩

/-! ## What follows a line terminator -/

def isTerminator (c : Char) : Bool := c = '\n' || c = '\r'

theorem free_of_accepts {accepts : Char → Bool} (newline : accepts '\n' = false)
    (carriage : accepts '\r' = false) {c : Char} (accepted : accepts c = true) :
    c ≠ '\n' ∧ c ≠ '\r' := by
  constructor
  · intro same
    rw [same, newline] at accepted
    cases accepted
  · intro same
    rw [same, carriage] at accepted
    cases accepted

theorem isClock_free {clock : CppString} (isClock : IsClock clock) : NoTerminator clock := by
  obtain ⟨a, b, c, d, e, f, ⟨ha, hb, hc, hd, he, hf⟩, rfl⟩ := isClock
  have free : ∀ c : Char, isDigit c = true → c ≠ '\n' ∧ c ≠ '\r' := fun c digit =>
    free_of_accepts rfl rfl digit
  intro c member
  simp only [List.mem_cons, List.not_mem_nil, or_false] at member
  rcases member with rfl | rfl | rfl | rfl | rfl | rfl | rfl | rfl
  case inr.inr.inl => decide
  case inr.inr.inr.inr.inr.inl => decide
  all_goals exact free _ (by assumption)

/-- No match goes past a line terminator. -/
theorem matches_dateRegex_free {w : CppString} (run : Matches dateRegex w) : NoTerminator w := by
  obtain ⟨x, y, z, before, d, between, clock, rfl, ⟨hx, hy, hz⟩, free, shown, free', isClock⟩ :=
    (matches_dateRegex_iff w).mp run
  intro c member
  simp only [List.mem_cons, List.mem_append] at member
  rcases member with rfl | rfl | rfl | inBefore | rfl | inBetween | inClock
  · exact free_of_accepts (by decide) (by decide) hx
  · exact free_of_accepts (by decide) (by decide) hy
  · exact free_of_accepts (by decide) (by decide) hz
  · exact free c inBefore
  · exact free_of_accepts (by decide) (by decide) shown
  · exact free' c inBetween
  · exact isClock_free isClock c inClock

/-- What the date pattern finds in a text. -/
def dateIn (text : CppString) : CppString := str ((Regex.search dateRegex text).map Regex.Found.text)

def afterTerminator (s : CppString) : CppString := (s.dropWhile fun c => !isTerminator c).tail

theorem noTerminator_or_split (s : CppString) : NoTerminator s ∨
    ∃ before c after, s = before ++ c :: after ∧ NoTerminator before ∧ isTerminator c = true := by
  induction s with
  | nil => exact .inl (by simp [NoTerminator])
  | cons c s ih =>
      cases ends : isTerminator c with
      | true => exact .inr ⟨[], c, s, rfl, by simp [NoTerminator], ends⟩
      | false =>
          have first : NoTerminator [c] := by
            simpa [NoTerminator, isTerminator] using ends
          rcases ih with free | ⟨before, d, after, rfl, free, isEnd⟩
          · exact .inl (first.append free)
          · exact .inr ⟨c :: before, d, after, rfl, first.append free, isEnd⟩

theorem afterTerminator_free {s : CppString} (free : NoTerminator s) : afterTerminator s = [] := by
  have all : s.dropWhile (fun c => !isTerminator c) = [] := by
    apply List.dropWhile_eq_nil_iff.mpr
    intro c member
    simpa [isTerminator] using free c member
  rw [afterTerminator, all, List.tail_nil]

theorem afterTerminator_append {before : CppString} {c : Char} (free : NoTerminator before)
    (isEnd : isTerminator c = true) (after : CppString) :
    afterTerminator (before ++ c :: after) = after := by
  unfold afterTerminator
  rw [List.dropWhile_append_of_pos, List.dropWhile_cons_of_neg (by simp [isEnd]), List.tail_cons]
  intro d member
  simpa [isTerminator] using free d member

/-! ## The first date of a text -/

/-- A date of the pattern begins `s`. -/
def DateBegins (s : CppString) : Prop :=
  ∃ x y z before d between clock after,
    s = x :: y :: z :: (before ++ d :: (between ++ (clock ++ after))) ∧
      (isLetter x = true ∧ isLetter y = true ∧ isLetter z = true) ∧ NoTerminator before ∧
      isOneToThree d = true ∧ NoTerminator between ∧ IsClock clock

theorem dateBegins_iff (s : CppString) : DateBegins s ↔ ∃ w, w <+: s ∧ Matches dateRegex w := by
  constructor
  · rintro ⟨x, y, z, before, d, between, clock, after, rfl, parts⟩
    exact ⟨x :: y :: z :: (before ++ d :: (between ++ clock)), ⟨after, by simp⟩,
      (matches_dateRegex_iff _).mpr ⟨x, y, z, before, d, between, clock, rfl, parts⟩⟩
  · rintro ⟨w, ⟨after, rfl⟩, run⟩
    obtain ⟨x, y, z, before, d, between, clock, rfl, parts⟩ := (matches_dateRegex_iff w).mp run
    exact ⟨x, y, z, before, d, between, clock, after, by simp, parts⟩

/-- The first date after the first line terminator spells the header's fields. -/
def DateRepeated (time : SyslogTime) (rest : CppString) : Prop :=
  ∃ skipped s, afterTerminator rest = skipped ++ s ∧
    (∀ a b, skipped = a ++ b → b ≠ [] → ¬ DateBegins (b ++ s)) ∧ DateBegins s ∧ SpellsStamp time s

theorem isDigit_of_isOneToThree {d : Char} (shown : isOneToThree d = true) : isDigit d = true := by
  simp only [isOneToThree, Bool.or_eq_true, Bool.and_eq_true, decide_eq_true_eq] at shown
  rcases shown with ⟨low, high⟩ | rfl
  · simp only [isDigit, Bool.and_eq_true, decide_eq_true_eq]
    exact ⟨Char.le_trans (by decide : '0' ≤ '1') low, Char.le_trans high (by decide : '3' ≤ '9')⟩
  · rfl

theorem not_isDigit_of_isSpace {c : Char} (space : isSpace c = true) : isDigit c = false := by
  cases digit : isDigit c with
  | false => rfl
  | true =>
      rw [isSpace_of_isDigit digit] at space
      cases space

theorem Numeral.digits {upper n : Nat} {word rest : CppString} (numeral : Numeral upper n word rest) :
    word.length ≤ 2 ∧ ∀ c ∈ word, isDigit c = true := by
  rcases numeral with ⟨small, rfl⟩ | ⟨small, rfl, _⟩
  · refine ⟨le_rfl, ?_⟩
    intro c member
    simp only [twoDigits, List.mem_cons, List.not_mem_nil, or_false] at member
    rcases member with rfl | rfl
    · exact isDigit_digitChar (by omega)
    · exact isDigit_digitChar (by omega)
  · refine ⟨by simp, ?_⟩
    intro c member
    rw [List.mem_singleton.mp member]
    exact isDigit_digitChar small

/-- Of what follows a number only the first character matters. -/
theorem Numeral.congr {upper n : Nat} {word more : CppString} {c : Char} {s s' : CppString}
    (numeral : Numeral upper n word (more ++ c :: s)) : Numeral upper n word (more ++ c :: s') := by
  have same : (more ++ c :: s').head? = (more ++ c :: s).head? := by
    cases more <;> rfl
  unfold Numeral at numeral ⊢
  rwa [same]

/-- A number before a colon is read up to it at most, and what comes after does
not matter. -/
theorem SpellsNumber.cut {upper n : Nat} {z y rest : CppString}
    (spelt : SpellsNumber upper n (z ++ ':' :: y) rest) :
    ∃ more, rest = more ++ ':' :: y ∧ z.countP isDigit ≤ more.countP isDigit + 2 ∧
      ∀ y', SpellsNumber upper n (z ++ ':' :: y') (more ++ ':' :: y') := by
  obtain ⟨blanks, word, split, isBlank, high, numeral⟩ := spelt
  obtain ⟨short, digits⟩ := numeral.digits
  have absent : ':' ∉ blanks ++ word := by
    intro member
    rcases List.mem_append.mp member with inBlanks | inWord
    · exact absurd (isBlank _ inBlanks) (by decide)
    · exact absurd (digits _ inWord) (by decide)
  rw [← List.append_assoc] at split
  obtain ⟨more, rfl, rfl⟩ := Lists.split_of_not_mem split absent
  refine ⟨more, rfl, ?_, fun y' => ⟨blanks, word, by simp, isBlank, high, numeral.congr⟩⟩
  have noDigit : blanks.countP isDigit = 0 := by
    rw [List.countP_eq_zero]
    intro c member
    simp [not_isDigit_of_isSpace (isBlank c member)]
  have few := List.countP_le_length (p := isDigit) (l := word)
  rw [List.countP_append, List.countP_append, noDigit]
  omega

/-- With a digit before it, a time that the pattern accepts ends what is read of
the time of day. -/
theorem SpellsClock.cut {hour minute second : Nat} {v clock tail : CppString} {d : Char}
    (member : d ∈ v) (digit : isDigit d = true) (isClock : IsClock clock)
    (spelt : SpellsClock hour minute second (v ++ (clock ++ tail))) (tail' : CppString) :
    SpellsClock hour minute second (v ++ (clock ++ tail')) := by
  obtain ⟨a, b, c, e, f, g, ⟨ha, hb, _, _, _, _⟩, rfl⟩ := isClock
  obtain ⟨fromMinute, fromSecond, rest, first, next, last⟩ := spelt
  have shape : ∀ s, v ++ ([a, b, ':', c, e, ':', f, g] ++ s) =
      (v ++ [a, b]) ++ ':' :: (c :: e :: ':' :: f :: g :: s) := by
    intro s
    simp
  rw [shape] at first ⊢
  obtain ⟨more, left, count, first'⟩ := first.cut
  -- three digits stand before the colon, and an hour has two at most
  have three : 3 ≤ (v ++ [a, b]).countP isDigit := by
    have one := List.countP_pos_iff.mpr ⟨d, member, digit⟩
    simp only [List.countP_append, List.countP_cons, List.countP_nil, ha, hb, if_true]
    omega
  cases more with
  | nil =>
      rw [List.countP_nil] at count
      omega
  | cons x more =>
      cases left
      obtain ⟨more', left, _, next'⟩ := next.cut
      cases more' with
      | nil =>
          cases left
          have inClock : ∀ s, c :: e :: ':' :: s = [c, e] ++ ':' :: s := fun s => rfl
          rw [inClock] at last
          obtain ⟨rest', _, _, last'⟩ := last.cut
          exact ⟨_, _, _, first' _, next' _, last' _⟩
      | cons x' more' =>
          cases left
          obtain ⟨rest', _, _, last'⟩ := last.cut
          exact ⟨_, _, _, first' _, next' _, last' _⟩

theorem notShown_of_hidden {time : SyslogTime} (hidden : ¬ ShowsDay time) {word rest : CppString}
    (numeral : Numeral 31 time.day word rest) : ∀ c ∈ word, isOneToThree c = false := by
  simp only [ShowsDay, not_or, Nat.not_lt] at hidden
  have unseen : ∀ d < 10, d < 1 ∨ 3 < d → isOneToThree (digitChar d) = false := by decide
  intro c member
  rcases numeral with ⟨small, rfl⟩ | ⟨small, rfl, _⟩
  · simp only [twoDigits, List.mem_cons, List.not_mem_nil, or_false] at member
    rcases member with rfl | rfl
    · exact unseen _ (by omega) (by omega)
    · exact unseen _ (by omega) (by omega)
  · rw [List.mem_singleton.mp member]
    exact unseen _ small (by omega)

/-- A date that the pattern finds is read like the text it begins. -/
theorem SpellsStamp.cut {time : SyslogTime} (hidden : ¬ ShowsDay time) {w : CppString}
    (run : Matches dateRegex w) {tail : CppString} (spelt : SpellsStamp time (w ++ tail))
    (tail' : CppString) : SpellsStamp time (w ++ tail') := by
  obtain ⟨x, y, z, before, d, between, clock, rfl, _, _, shown, _, isClock⟩ :=
    (matches_dateRegex_iff w).mp run
  obtain ⟨name, afterName, afterDay, split, month, day, ends⟩ := spelt
  obtain ⟨blanks, word, rfl, isBlank, high, numeral⟩ := day
  have shape : ∀ s, x :: y :: z :: (before ++ d :: (between ++ clock)) ++ s =
      (x :: y :: z :: before) ++ d :: (between ++ (clock ++ s)) := by
    intro s
    simp
  have digit := isDigit_of_isOneToThree shown
  have absent : d ∉ name ++ (blanks ++ word) := by
    intro member
    simp only [List.mem_append] at member
    rcases member with inName | inBlanks | inWord
    · have letter := month.letters d inName
      have noLetter : ∀ k < 10, isLetter (digitChar k) = false := by decide
      obtain ⟨k, small, rfl⟩ := exists_digitChar digit
      rw [noLetter k small] at letter
      cases letter
    · rw [not_isDigit_of_isSpace (isBlank d inBlanks)] at digit
      cases digit
    · rw [notShown_of_hidden hidden numeral d inWord] at shown
      cases shown
  have whole : (x :: y :: z :: before) ++ d :: (between ++ (clock ++ tail)) =
      (name ++ (blanks ++ word)) ++ afterDay := by
    rw [← shape, split]
    simp
  obtain ⟨more, front, rfl⟩ := Lists.split_of_not_mem whole absent
  have grouped : ∀ s, more ++ d :: (between ++ (clock ++ s)) =
      (more ++ d :: between) ++ (clock ++ s) := by
    intro s
    simp
  have inFront : d ∈ more ++ d :: between := by simp
  refine ⟨name, blanks ++ (word ++ (more ++ d :: (between ++ (clock ++ tail')))), _, ?_, month,
    ⟨blanks, word, rfl, isBlank, high, numeral.congr⟩, ?_⟩
  · rw [shape, front]
    simp
  · rw [grouped] at ends ⊢
    rcases ends with clock' | ⟨midnight, noClock⟩
    · exact .inl (clock'.cut inFront digit isClock tail')
    · refine .inr ⟨midnight, ?_⟩
      intro hour minute second spelt'
      exact noClock hour minute second (spelt'.cut inFront digit isClock tail)

theorem not_spellsStamp_nil (time : SyslogTime) : ¬ SpellsStamp time [] := by
  rintro ⟨name, afterName, afterDay, split, _, day, _⟩
  obtain ⟨c, more, rfl, _⟩ := day.starts
  exact absurd (List.append_eq_nil_iff.mp split.symm).2 (by simp)

theorem convert_of_noNul {s : CppString} (noNul : '\x00' ∉ s) :
    convertSyslogTimestampToTm s = strptime syslogFormat s {} := by
  have clean : ∀ c ∈ s, c ≠ '\x00' := fun c member nul => noNul (nul ▸ member)
  have front := cStr_append clean []
  have nothing : cStr [] = [] := rfl
  rw [nothing, List.append_nil] at front
  rw [convertSyslogTimestampToTm, front]

/-- Only one place of a text can be the first where a date begins. -/
theorem firstDate_unique {skipped s before s' : CppString} (split : skipped ++ s = before ++ s')
    (first : ∀ a b, skipped = a ++ b → b ≠ [] → ¬ DateBegins (b ++ s)) (begins : DateBegins s)
    (first' : ∀ a b, before = a ++ b → b ≠ [] → ¬ DateBegins (b ++ s')) (begins' : DateBegins s') :
    s = s' := by
  rcases List.append_eq_append_iff.mp split with ⟨more, rfl, whole⟩ | ⟨more, rfl, whole⟩
  · by_cases none : more = []
    · rw [whole, none, List.nil_append]
    · exact absurd (whole ▸ begins) (first' skipped more rfl none)
  · by_cases none : more = []
    · rw [whole, none, List.nil_append]
    · exact absurd (whole ▸ begins') (first before more rfl none)

/-- What is read of the date found in a text. -/
theorem dateIn_spells_iff {time : SyslogTime} (hidden : ¬ ShowsDay time) {text : CppString}
    (noNul : '\x00' ∉ text) :
    SameStamp (convertSyslogTimestampToTm (dateIn text)) time.tm ↔
      ∃ skipped s, text = skipped ++ s ∧
        (∀ a b, skipped = a ++ b → b ≠ [] → ¬ DateBegins (b ++ s)) ∧ DateBegins s ∧
        SpellsStamp time s := by
  unfold dateIn
  cases search : Regex.search dateRegex text with
  | none =>
      rw [Option.map_none, str, Option.getD_none, convert_of_noNul (by simp), strptime_iff]
      refine iff_of_false (not_spellsStamp_nil time) ?_
      rintro ⟨skipped, s, rfl, _, begins, _⟩
      obtain ⟨w, ⟨after, rfl⟩, run⟩ := (dateBegins_iff s).mp begins
      exact Regex.search_none _ _ search ⟨skipped, w, after, by simp, run⟩
  | some found =>
      obtain ⟨split, run⟩ := Regex.search_sound _ _ _ search
      have foundNoNul : '\x00' ∉ found.text := by
        intro member
        apply noNul
        rw [split]
        simp [member]
      rw [Option.map_some, str, Option.getD_some, convert_of_noNul foundNoNul, strptime_iff]
      have here : DateBegins (found.text ++ found.after) :=
        (dateBegins_iff _).mpr ⟨found.text, List.prefix_append _ _, run⟩
      have leftmost : ∀ a b, found.before = a ++ b → b ≠ [] →
          ¬ DateBegins (b ++ (found.text ++ found.after)) := by
        intro a b before ne begins
        obtain ⟨w, start, run'⟩ := (dateBegins_iff _).mp begins
        exact Regex.search_leftmost search a b w before ne start run'
      rw [List.append_assoc] at split
      constructor
      · intro spelt
        rw [← List.append_nil found.text] at spelt
        exact ⟨found.before, found.text ++ found.after, split, leftmost, here,
          spelt.cut hidden run found.after⟩
      · rintro ⟨skipped, s, split', first, begins, spelt⟩
        have same := firstDate_unique (split'.symm.trans split) first begins leftmost here
        rw [same] at spelt
        simpa using spelt.cut hidden run []

/-! ## The date found in a line -/

theorem dateIn_seen {time : SyslogTime} {more : CppString}
    (seen : ShowsDay time ∨ LaterClock (time.text ++ (' ' :: more))) :
    convertSyslogTimestampToTm (dateIn (time.text ++ (' ' :: more))) = time.tm := by
  obtain ⟨found, rest, success, whole⟩ := search_header seen
  unfold dateIn
  rw [success, Option.map_some, str, Option.getD_some, whole, convert_text]

theorem dateIn_unseen {time : SyslogTime} {more : CppString} (free : NoTerminator more)
    (unseen : ¬ (ShowsDay time ∨ LaterClock (time.text ++ (' ' :: more)))) :
    dateIn (time.text ++ (' ' :: more)) = [] := by
  have absent : Regex.search dateRegex (time.text ++ (' ' :: more)) = none := by
    apply Option.not_isSome_iff_eq_none.mp
    intro success
    exact unseen (seen_of_occurs free ((Regex.search_isSome_iff _ _).mp success))
  unfold dateIn
  rw [absent]
  rfl

theorem dateIn_past {time : SyslogTime} {before after : CppString} {c : Char}
    (free : NoTerminator before) (isEnd : isTerminator c = true)
    (unseen : ¬ (ShowsDay time ∨ LaterClock (time.text ++ (' ' :: (before ++ c :: after))))) :
    dateIn (time.text ++ (' ' :: (before ++ c :: after))) = dateIn after := by
  have absent : ¬ Regex.Occurs dateRegex (time.text ++ (' ' :: before)) := by
    intro occurs
    apply unseen
    rcases seen_of_occurs free occurs with shows | later
    · exact .inl shows
    · refine .inr ?_
      have longer := later.append (c :: after)
      simpa using longer
  have barred : ∀ w, Matches dateRegex w → c ∉ w := by
    intro w run member
    have inLine := matches_dateRegex_free run c member
    simp [isTerminator, inLine] at isEnd
  have past := Regex.search_past barred absent after
  have shape : time.text ++ (' ' :: (before ++ c :: after)) =
      (time.text ++ (' ' :: before)) ++ c :: after := by simp
  unfold dateIn
  rw [shape, past, Option.map_map]
  rfl

/-- The date of the header is read back just where its day shows a character the
pattern wants, another time follows, or the date is repeated. -/
theorem dateIn_header_iff (time : SyslogTime) {more : CppString} (noNul : '\x00' ∉ more) :
    SameStamp (convertSyslogTimestampToTm (dateIn (time.text ++ (' ' :: more)))) time.tm ↔
      ShowsDay time ∨ LaterClock (time.text ++ (' ' :: more)) ∨ DateRepeated time more := by
  by_cases seen : ShowsDay time ∨ LaterClock (time.text ++ (' ' :: more))
  · rw [dateIn_seen seen, ← or_assoc]
    exact iff_of_true ⟨rfl, rfl, rfl, rfl, rfl⟩ (.inl seen)
  · have hidden : ¬ ShowsDay time := fun shows => seen (.inl shows)
    rw [← or_assoc, or_iff_right seen]
    unfold DateRepeated
    rcases noTerminator_or_split more with free | ⟨before, c, after, rfl, free, isEnd⟩
    · have nothing : dateIn [] = [] := by decide
      rw [dateIn_unseen free seen, afterTerminator_free free, ← dateIn_spells_iff hidden (by simp),
        nothing]
    · have noNul' : '\x00' ∉ after := fun member => noNul (by simp [member])
      rw [dateIn_past free isEnd seen, afterTerminator_append free isEnd,
        dateIn_spells_iff hidden noNul']

end StoringDevices
