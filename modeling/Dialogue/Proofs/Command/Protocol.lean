import Dialogue.Proofs.Lexer.Pairing
import Dialogue.Proofs.Grammar.Chatfile

/-!
# The protocol of a scanner

A scanner makes one attempt to read a command after the other, and gives up at the first that comes
to none. What it shows between its scans, and what it hands out as an iterator, is decided by these
attempts alone: it shows each command once, then the error, and then never moves its source again,
even if that has more to give.

An iterator may take over after any number of scans. It goes on where they have come to, and hands
out the error once, whether a scan has met it before or not.

## Main definitions

* `Command.Gives source commands stop`: the attempts on a source give these commands and then stop
* `Scanner.Stands`: where a scanner over a source stands after some attempts
* `Scanner.afterNext`, `Scanner.answers`: the scanner after some calls as an iterator, and what it
  has answered to them

## Main results

* `Command.gives_scanAll`: the attempts on a source give what a scan of all of it finds
* `Scanner.Stands.scan`, `Scanner.Stands.next?`: a scan and a call of the iterator are one attempt
* `Scanner.Stands.answers_eq`: the iterator hands out what is left, the error once, and then nothing
* `scanner_follows_attempts`: what a scanner shows and hands out is decided by the attempts
-/

namespace Dialogue

open TokenSource

variable {σ : Type} [TokenSource σ] {source : σ} {commands : List Command}
  {stop : Option ParseError}

/-! ## The attempts up to a stop -/

/-- What the attempt comes to on which a scan stops: a clean end or an error. -/
def Parsed.ofStop : Option ParseError → Parsed
  | none => .finished
  | some error => .failed error

namespace Command

/-- The attempts on a source give these commands, one after the other, and the next one stops. -/
structure Gives (source : σ) (commands : List Command) (stop : Option ParseError) : Prop where
  gives : ∀ k (hk : k < commands.length), attempt source k = .command commands[k]
  stops : attempt source commands.length = .ofStop stop

theorem parse_sourceAfter (source : σ) (k : Nat) :
    parse (sourceAfter source k) = (attempt source k, sourceAfter source (k + 1)) :=
  rfl

/-- After a first attempt the others are those on the source behind it. -/
theorem sourceAfter_succ (source : σ) (k : Nat) :
    sourceAfter source (k + 1) = sourceAfter (parse source).2 k := by
  induction k with
  | zero => rfl
  | succ k ih => rw [sourceAfter, ih, sourceAfter]

theorem attempt_succ (source : σ) (k : Nat) :
    attempt source (k + 1) = attempt (parse source).2 k := by
  rw [attempt, sourceAfter_succ, attempt]

/-- One more command, read before the others. -/
theorem Gives.cons {command : Command} {moved : σ}
    (hparse : parse source = (.command command, moved)) (h : Gives moved commands stop) :
    Gives source (command :: commands) stop := by
  refine ⟨fun k hk => ?_, ?_⟩
  · cases k with
    | zero =>
      rw [attempt, sourceAfter, hparse]
      rfl
    | succ k =>
      rw [attempt_succ, hparse]
      exact h.gives k (Nat.lt_of_succ_lt_succ hk)
  · rw [List.length_cons, attempt_succ, hparse]
    exact h.stops

/-- **The attempts on a source give what a scan of all of it finds.** -/
theorem gives_scanAll (source : σ) : Gives source (scanAll source).1 (scanAll source).2.1 := by
  -- On the tokens that are left, of which each command uses up some.
  induction hleft : remaining source using Nat.strongRecOn generalizing source with
  | ind left ih =>
    rcases hparse : parse source with ⟨parsed, moved⟩
    cases parsed with
    | command command =>
      rw [scanAll_of_command hparse]
      exact (ih _ (hleft ▸ remaining_parse hparse) moved rfl).cons hparse
    | finished =>
      rw [scanAll_of_finished hparse]
      exact ⟨nofun, congrArg Prod.fst hparse⟩
    | failed error =>
      rw [scanAll_of_failed hparse]
      exact ⟨nofun, congrArg Prod.fst hparse⟩

end Command

namespace Scanner

variable {scanner : Scanner σ} {moved : σ} {k : Nat}

/-! ## One scan -/

theorem scan_of_finished (h : scanner.finished = true) : scanner.scan = (false, scanner) := by
  rw [scan, if_pos h]

theorem scan_of_command {command : Command} (hgoes : scanner.finished = false)
    (h : Command.parse scanner.source = (.command command, moved)) :
    scanner.scan = (true, { scanner with source := moved, command := some command }) := by
  simp only [scan, hgoes, h, Bool.false_eq_true, if_false]

/-- A scan that stops forgets the last command, and keeps the error if there is one. -/
theorem scan_of_stop (hgoes : scanner.finished = false) (herror : scanner.error = none)
    (h : Command.parse scanner.source = (.ofStop stop, moved)) :
    scanner.scan = (false, { scanner with
      source := moved, command := none, error := stop, finished := true }) := by
  cases stop with
  | none => simp only [scan, hgoes, h, Parsed.ofStop, herror, Bool.false_eq_true, if_false]
  | some error => simp only [scan, hgoes, h, Parsed.ofStop, Bool.false_eq_true, if_false]

/-! ## Where a scanner stands -/

/-- Where a scanner over `source` stands after `k` attempts, if these give `commands` and then
`stop`. Behind the stop it stands where it has stopped. -/
structure Stands (scanner : Scanner σ) (source : σ) (commands : List Command)
    (stop : Option ParseError) (k : Nat) : Prop where
  source_eq : scanner.source = Command.sourceAfter source (min k (commands.length + 1))
  finished_iff : scanner.finished = true ↔ commands.length < k
  error_eq : scanner.error = if k ≤ commands.length then none else stop
  command_eq : commands.length < k → scanner.command = none

theorem stands_start (source : σ) (commands : List Command) (stop : Option ParseError) :
    Stands { source } source commands stop 0 where
  source_eq := by rw [Nat.zero_min, Command.sourceAfter]
  finished_iff := by simp
  error_eq := rfl
  command_eq := nofun

namespace Stands

/-- Before the stop, the next attempt is made on the source as the others have left it. -/
theorem parse_eq (h : scanner.Stands source commands stop k) (hk : k ≤ commands.length) :
    scanner.finished = false ∧ scanner.error = none ∧
      Command.parse scanner.source =
        (Command.attempt source k, Command.sourceAfter source (k + 1)) := by
  refine ⟨?_, ?_, ?_⟩
  · rw [← Bool.not_eq_true, h.finished_iff]
    exact Nat.not_lt.mpr hk
  · rw [h.error_eq, if_pos hk]
  · rw [h.source_eq, Nat.min_eq_left (Nat.le_succ_of_le hk), Command.parse_sourceAfter]

/-- **A scan is one attempt**: before the stop it shows the command that this gives, and from the
stop on it shows none. -/
theorem scan (h : scanner.Stands source commands stop k)
    (hgives : Command.Gives source commands stop) :
    (scanner.scan.1 = true ↔ k < commands.length) ∧
      scanner.scan.2.Stands source commands stop (k + 1) ∧
      scanner.scan.2.command = commands[k]? ∧ scanner.scan.2.reported = scanner.reported := by
  rcases Nat.lt_trichotomy k commands.length with hlt | heq | hgt
  · obtain ⟨hgoes, herror, hparse⟩ := h.parse_eq (Nat.le_of_lt hlt)
    rw [hgives.gives k hlt] at hparse
    rw [scan_of_command hgoes hparse]
    refine ⟨by simpa using hlt, ⟨?_, ?_, ?_, ?_⟩, ?_, rfl⟩
    · rw [Nat.min_eq_left (Nat.succ_le_succ (Nat.le_of_lt hlt))]
    · exact iff_of_false (hgoes ▸ Bool.false_ne_true) (Nat.not_lt.mpr hlt)
    · exact herror.trans (if_pos hlt).symm
    · intro hover
      exact absurd hlt (by omega)
    · exact (List.getElem?_eq_getElem hlt).symm
  · -- The attempt that stops.
    obtain ⟨hgoes, herror, hparse⟩ := h.parse_eq (Nat.le_of_eq heq)
    rw [heq, hgives.stops] at hparse
    rw [scan_of_stop hgoes herror hparse]
    refine ⟨by simp [heq], ⟨?_, ?_, ?_, fun _ => rfl⟩, ?_, rfl⟩
    · rw [heq, Nat.min_self]
    · exact iff_of_true rfl (by omega)
    · exact (if_neg (by omega)).symm
    · exact (List.getElem?_eq_none (Nat.le_of_eq heq.symm)).symm
  · -- Behind the stop nothing moves.
    rw [scan_of_finished (h.finished_iff.mpr hgt)]
    refine ⟨by simp; omega, ⟨?_, ?_, ?_, ?_⟩, ?_, rfl⟩
    · rw [h.source_eq, Nat.min_eq_right (Nat.succ_le_of_lt hgt),
        Nat.min_eq_right (Nat.succ_le_of_lt (Nat.lt_succ_of_lt hgt))]
    · rw [h.finished_iff]
      omega
    · rw [h.error_eq, if_neg (by omega), if_neg (by omega)]
    · exact fun _ => h.command_eq hgt
    · rw [h.command_eq hgt, List.getElem?_eq_none (Nat.le_of_lt hgt)]

/-- Where a scanner stands after some scans. -/
theorem after (hgives : Command.Gives source commands stop) (k : Nat) :
    (Scanner.after { source } k).Stands source commands stop k ∧
      (Scanner.after { source } k).reported = false := by
  induction k with
  | zero => exact ⟨stands_start source commands stop, rfl⟩
  | succ k ih =>
    obtain ⟨hstands, hreported⟩ := ih
    obtain ⟨-, hnext, -, hsame⟩ := hstands.scan hgives
    exact ⟨hnext, hsame.trans hreported⟩

end Stands

/-! ## The iterator -/

/-- The scanner after some calls as an iterator. -/
def afterNext (scanner : Scanner σ) : Nat → Scanner σ
  | 0 => scanner
  | m + 1 => (scanner.afterNext m).next?.2

/-- What the scanner answers to some calls as an iterator. -/
def answers (scanner : Scanner σ) : Nat → List (Option (Except ParseError Command))
  | 0 => []
  | m + 1 => scanner.next?.1 :: scanner.next?.2.answers m

namespace Stands

/-- A call before the stop hands out the command of the next attempt. -/
theorem next?_of_lt (h : scanner.Stands source commands stop k)
    (hgives : Command.Gives source commands stop) (hk : k < commands.length) :
    scanner.next?.1 = some (.ok commands[k]) ∧
      scanner.next?.2.Stands source commands stop (k + 1) ∧
      scanner.next?.2.reported = scanner.reported := by
  obtain ⟨hmore, hnext, hcommand, hsame⟩ := h.scan hgives
  rcases hscan : scanner.scan with ⟨more, moved⟩
  rw [hscan] at hmore hnext hcommand hsame
  obtain rfl : more = true := hmore.mpr hk
  have hfound : moved.command = some commands[k] :=
    hcommand.trans (List.getElem?_eq_getElem hk)
  simp only [Scanner.next?, hscan, hfound, Option.map_some, true_and]
  -- The command is taken out, which leaves everything else in its place.
  exact ⟨⟨hnext.source_eq, hnext.finished_iff, hnext.error_eq, fun _ => rfl⟩, hsame⟩

/-- A call from the stop on hands out the error, unless that has been done. -/
theorem next?_of_ge (h : scanner.Stands source commands stop k)
    (hgives : Command.Gives source commands stop) (hk : commands.length ≤ k) :
    scanner.next?.1 = (if scanner.reported then none else stop.map .error) ∧
      scanner.next?.2.Stands source commands stop (k + 1) ∧
      scanner.next?.2.reported = (scanner.reported || stop.isSome) := by
  obtain ⟨hmore, hnext, -, hsame⟩ := h.scan hgives
  rcases hscan : scanner.scan with ⟨more, stopped⟩
  rw [hscan] at hmore hnext hsame
  obtain rfl : more = false := by
    rw [← Bool.not_eq_true, hmore]
    exact Nat.not_lt.mpr hk
  have herror : stopped.error = stop := hnext.error_eq.trans (if_neg (by omega))
  simp only at hsame
  -- Behind the commands it is the stop that answers, and `reported` lets it answer once.
  cases stop with
  | none =>
    simp only [Scanner.next?, hscan, herror]
    exact ⟨by split <;> rfl, hnext, by simp [hsame]⟩
  | some error =>
    cases hreported : scanner.reported with
    | true =>
      simp only [Scanner.next?, hscan, herror, hsame, hreported, if_true]
      exact ⟨trivial, hnext, by simp⟩
    | false =>
      simp only [Scanner.next?, hscan, herror, hsame, hreported, Bool.false_eq_true, if_false]
      refine ⟨rfl, ⟨hnext.source_eq, hnext.finished_iff, ?_, hnext.command_eq⟩, rfl⟩
      exact (if_neg (by omega)).symm

/-- **A call of the iterator is one attempt**, as a scan is. -/
theorem next? (h : scanner.Stands source commands stop k)
    (hgives : Command.Gives source commands stop) :
    scanner.next?.2.Stands source commands stop (k + 1) := by
  rcases Nat.lt_or_ge k commands.length with hlt | hge
  · exact (h.next?_of_lt hgives hlt).2.1
  · exact (h.next?_of_ge hgives hge).2.1

theorem afterNext (h : scanner.Stands source commands stop k)
    (hgives : Command.Gives source commands stop) (m : Nat) :
    (scanner.afterNext m).Stands source commands stop (k + m) := by
  induction m with
  | zero => exact h
  | succ m ih => exact ih.next? hgives

/-- Behind the stop, with no error left to hand out, nothing is answered. -/
theorem answers_of_done (h : scanner.Stands source commands stop k)
    (hgives : Command.Gives source commands stop) (hk : commands.length ≤ k)
    (hdone : scanner.reported = true ∨ stop = none) (m : Nat) :
    scanner.answers m = List.replicate m none := by
  induction m generalizing scanner k with
  | zero => rfl
  | succ m ih =>
    obtain ⟨hanswer, hnext, hreported⟩ := h.next?_of_ge hgives hk
    have hnone : scanner.next?.1 = none := by
      rw [hanswer]
      rcases hdone with hdone | rfl
      · rw [if_pos hdone]
      · exact ite_self none
    rw [answers, hnone, ih hnext (Nat.le_succ_of_le hk) ?_, List.replicate_succ]
    exact hdone.imp_left fun hdone => by rw [hreported, hdone, Bool.true_or]

/-- From the stop on, the error is answered once. -/
theorem answers_of_ge (h : scanner.Stands source commands stop k)
    (hgives : Command.Gives source commands stop) (hk : commands.length ≤ k)
    (hreported : scanner.reported = false) (m : Nat) :
    scanner.answers (stop.toList.length + m) =
      stop.toList.map (some ∘ .error) ++ List.replicate m none := by
  cases stop with
  | none =>
    rw [Option.toList_none, List.length_nil, Nat.zero_add]
    exact h.answers_of_done hgives hk (Or.inr rfl) m
  | some error =>
    obtain ⟨hanswer, hnext, hnow⟩ := h.next?_of_ge hgives hk
    rw [hreported] at hanswer
    rw [Option.toList_some, List.length_singleton, Nat.add_comm, answers, hanswer,
      hnext.answers_of_done hgives (Nat.le_succ_of_le hk) (Or.inl (by rw [hnow]; simp)) m]
    rfl

/-- **The iterator hands out what is left**: the commands that have not been shown, the error once,
and then nothing, however often it is called. -/
theorem answers_eq (h : scanner.Stands source commands stop k)
    (hgives : Command.Gives source commands stop) (hreported : scanner.reported = false) (m : Nat) :
    scanner.answers ((commands.drop k).length + (stop.toList.length + m)) =
      (commands.drop k).map (some ∘ .ok) ++
        (stop.toList.map (some ∘ .error) ++ List.replicate m none) := by
  induction hleft : commands.length - k generalizing scanner k with
  | zero =>
    have hk : commands.length ≤ k := Nat.sub_eq_zero_iff_le.mp hleft
    rw [List.drop_eq_nil_of_le hk, List.length_nil, Nat.zero_add]
    exact h.answers_of_ge hgives hk hreported m
  | succ left ih =>
    have hk : k < commands.length := by omega
    obtain ⟨hanswer, hnext, hsame⟩ := h.next?_of_lt hgives hk
    rw [List.drop_eq_getElem_cons hk, List.length_cons, Nat.add_right_comm, answers, hanswer,
      ih hnext (hsame.trans hreported) (by omega)]
    rfl

end Stands

end Scanner

/-- **What a scanner shows and hands out is decided by the attempts on its source.** These give
some commands and then stop. A scan comes to a command if and only if there is one more, and shows
it. From the stop on it shows no command and the error of the stop, if that is one, and the source
is not moved again. An iterator that takes over after any number of scans hands out the commands
that are left, then the error once, and then nothing, and it moves the source as far as the scans
would. -/
theorem scanner_follows_attempts (source : σ) :
    ∃ commands stop, Command.Gives source commands stop ∧
      (∀ k, ((Scanner.after { source } k).scan.1 = true ↔ k < commands.length) ∧
        (Scanner.after { source } (k + 1)).command = commands[k]? ∧
        (Scanner.after { source } k).error = (if k ≤ commands.length then none else stop) ∧
        (Scanner.after { source } k).source =
          Command.sourceAfter source (min k (commands.length + 1))) ∧
      ∀ k m,
        (Scanner.after { source } k).answers
            ((commands.drop k).length + (stop.toList.length + m)) =
          (commands.drop k).map (some ∘ .ok) ++
            (stop.toList.map (some ∘ .error) ++ List.replicate m none) ∧
        ((Scanner.after { source } k).afterNext m).source =
          Command.sourceAfter source (min (k + m) (commands.length + 1)) := by
  have hgives := Command.gives_scanAll source
  refine ⟨_, _, hgives, fun k => ?_, fun k m => ?_⟩
  · obtain ⟨hstands, -⟩ := Scanner.Stands.after hgives k
    obtain ⟨hmore, -, hcommand, -⟩ := hstands.scan hgives
    exact ⟨hmore, hcommand, hstands.error_eq, hstands.source_eq⟩
  · obtain ⟨hstands, hreported⟩ := Scanner.Stands.after hgives k
    exact ⟨hstands.answers_eq hgives hreported m, (hstands.afterNext hgives m).source_eq⟩

/-- The lexer finds `ASK b` behind an end of its input, and the scanner does not ask for it. -/
example :
    let source := Lexer.ofDeliveries [.chunk [65, 83, 75, 32, 97, 10], .chunk [],
      .chunk [65, 83, 75, 32, 98, 10]]
    Command.attempt source 2 = .command (.say ⟨.user, "b"⟩) ∧
      Scanner.answers { source } 4 = [some (.ok (.say ⟨.user, "a"⟩)), none, none, none] := by
  decide

end Dialogue
