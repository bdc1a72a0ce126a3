import Emend.Proofs.FileRun.Fates
import Emend.Proofs.FileRun.Settled
import Emend.Proofs.FileRun.Spans

/-!
# The books of a run

An `Account` of a round holds the record of its diagnostics with the report that the record accounts
for. Every round that does not fail has one (`exists_account`), so that every loop that does not
fail has a `Book`, with an account for each call of the round (`exists_book`). A run over a file
finds as unresolved what the last rounds of its representations have left, and counts what all of
their rounds have applied (`fixFileWith_accounts`).
-/

namespace Emend

namespace FileRun

section
variable {s : Shape}

/-- A round of a loop: what it was shown, what became of the diagnostics, and what it has left. -/
structure Account (s : Shape) where
  shown : Representation s.Doc
  record : Record s.Payload
  report : FixReport s.Payload
  left : Round s.Payload

/-- The account is that of a round with the rules and the fixer. -/
structure Account.Holds (account : Account s) (config : Config) (rules : List (Rule s))
    (fixer : Fixer s) : Prop where
  report_eq : (fixer.applyWith account.shown
    ((evaluate config rules account.shown).filterMap Diagnostic.fix) config.policy).result =
      .ok account.report
  accounts : Accounts account.record (evaluate config rules account.shown) account.report
    account.left

/-- The rounds of a loop in order. -/
structure Book (s : Shape) where
  earlier : List (Account s)
  last : Account s

namespace Book

/-- All rounds. -/
def accounts (book : Book s) : List (Account s) := book.earlier ++ [book.last]

/-- How many fixes were applied in all rounds. -/
def appliedCount (book : Book s) : Nat :=
  (book.accounts.map fun account => account.report.appliedCount).sum

/-- The book has one account for each round that the loop makes of the representation. -/
structure Covers (book : Book s) (config : Config) (rules : List (Rule s)) (fixer : Fixer s)
    (first : Representation s.Doc) : Prop where
  shown_eq : book.accounts.map Account.shown =
    (List.range (FixLoop.calls (fun r => s.fingerprint r.content) config.maxIterations
      (round config rules fixer) ⟨0, ⟨[], []⟩, []⟩ first)).map fun j =>
        (FixLoop.trace (round config rules fixer) ⟨0, ⟨[], []⟩, []⟩ first j).content
  holds : ∀ account ∈ book.accounts, account.Holds config rules fixer

end Book

variable {config : Config} {rules : List (Rule s)} {fixer : Fixer s}
  {progress : Progress s.Payload} {r first : Representation s.Doc}

/-! ## Rounds -/

/-- A round that does not fail has an account. -/
theorem exists_account {changed : Bool}
    (h : (round config rules fixer progress r).result = .ok changed) :
    ∃ account : Account s, account.shown = r ∧ account.Holds config rules fixer ∧
      (round config rules fixer progress r).state.last = account.left ∧
      (round config rules fixer progress r).state.applied =
        progress.applied + account.report.appliedCount := by
  unfold round at h ⊢
  dsimp only at h ⊢
  split at h
  · cases h
  · next report hreport =>
    rw [map_fst_proposals] at hreport
    obtain ⟨record, haccounts⟩ := exists_accounts hreport
    exact ⟨⟨r, record, report, _⟩, rfl, ⟨hreport, haccounts⟩, rfl, rfl⟩

/-! ## Loops -/

/-- Rounds that do not fail have accounts, which add up to what the rounds have applied. -/
theorem exists_accounts_of_rounds {trace : Nat → Stepped (Progress s.Payload) EngineError
      (Representation s.Doc)}
    (htrace : trace = FixLoop.trace (round config rules fixer) progress first) (n : Nat)
    (h : ∀ j < n, ∃ changed, (trace (j + 1)).result = .ok changed) :
    ∃ accounts : List (Account s),
      accounts.map Account.shown = (List.range n).map (fun j => (trace j).content) ∧
      (∀ account ∈ accounts, account.Holds config rules fixer) ∧
      (trace n).state.applied =
        progress.applied + (accounts.map fun account => account.report.appliedCount).sum := by
  subst htrace
  induction n with
  | zero => exact ⟨[], rfl, nofun, rfl⟩
  | succ n ih =>
    obtain ⟨accounts, hshown, hholds, happlied⟩ := ih fun j hj => h j (Nat.lt_succ_of_lt hj)
    obtain ⟨changed, hresult⟩ := h n (Nat.lt_succ_self n)
    obtain ⟨account, hlast, haccount, -, hcount⟩ := exists_account hresult
    refine ⟨accounts ++ [account], ?_, ?_, ?_⟩
    · rw [List.map_append, hshown, List.range_succ, List.map_append, List.map_singleton, hlast,
        List.map_singleton]
    · intro other hother
      rcases List.mem_append.1 hother with hother | hother
      · exact hholds other hother
      · obtain rfl := List.mem_singleton.1 hother
        exact haccount
    · rw [List.map_append, List.sum_append, ← Nat.add_assoc, ← happlied]
      exact hcount

/-- A loop that does not fail has a book. -/
theorem exists_book {ending : LoopEnd} (h : (loop config rules fixer first).result = .ok ending) :
    ∃ book : Book s, book.Covers config rules fixer first ∧
      (loop config rules fixer first).state.last = book.last.left ∧
      (loop config rules fixer first).state.applied = book.appliedCount := by
  let trace := FixLoop.trace (round config rules fixer) ⟨0, ⟨[], []⟩, []⟩ first
  obtain ⟨k, hcalls⟩ : ∃ k, FixLoop.calls (fun r => s.fingerprint r.content) config.maxIterations
      (round config rules fixer) ⟨0, ⟨[], []⟩, []⟩ first = k := ⟨_, rfl⟩
  have hk : FixLoop.Finished (fun r => s.fingerprint r.content) config.maxIterations trace k
      (loop config rules fixer first) := by
    rw [← hcalls]
    exact FixLoop.finished_run _ _ _ _ _
  obtain ⟨hpos, -⟩ := hk.isLeast.1
  obtain ⟨j, rfl⟩ := Nat.exists_eq_add_of_le' hpos
  have hearlier : ∀ i < j, ∃ changed, (trace (i + 1)).result = .ok changed := fun i hi =>
    ⟨true, hk.result_eq_true_of_lt (Nat.le_add_left 1 i) (Nat.add_lt_add_right hi 1)⟩
  obtain ⟨changed, hlast⟩ := hk.exists_changed h
  obtain ⟨earlier, hshown, hholds, happlied⟩ := exists_accounts_of_rounds rfl j hearlier
  obtain ⟨account, haccount, hholds', hleft, hcount⟩ := exists_account hlast
  refine ⟨⟨earlier, account⟩, ⟨?_, ?_⟩, ?_, ?_⟩
  · rw [hcalls, Book.accounts, List.map_append, hshown, List.range_succ, List.map_append,
      List.map_singleton, haccount, List.map_singleton]
  · intro other hother
    rcases List.mem_append.1 hother with hother | hother
    · exact hholds other hother
    · obtain rfl := List.mem_singleton.1 hother
      exact hholds'
  · rw [hk.state_eq]
    exact hleft
  · rw [hk.state_eq, Book.appliedCount, Book.accounts, List.map_append, List.sum_append]
    rw [Nat.zero_add] at happlied
    rw [← happlied]
    exact hcount

end

/-! ## Runs -/

section
variable {c : Catalogue} {registry : Registry c} {config : Config} {kind : Kind c.Custom}
  {parser : Parser (c.shape kind)} {tag : Tag} {name : String} {path : Path}

/-- The book is kept of the representation with the enabled rules, in the order of their
registration, and the fixer for the parser's tag. -/
def Book.Kept (book : Book (c.shape kind)) (registry : Registry c) (config : Config)
    (parser : Parser (c.shape kind)) (first : Representation (c.shape kind).Doc) : Prop :=
  ∃ rules fixer, rules.map (Entry.mk parser.tag kind) = (registry.rules.filter fun entry =>
      entry.tag == parser.tag && config.isRuleEnabled entry.plugin.name) ∧
    registry.fixerFor kind parser.tag = .ok fixer ∧ book.Covers config rules fixer first

/-- The enabled rules stand in the order of their registration. -/
theorem entries_enabledRules {rules : List (Rule (c.shape kind))}
    (h : enabledRules registry config kind tag = .ok rules) :
    rules.map (Entry.mk tag kind) = registry.rules.filter fun entry =>
      entry.tag == tag && config.isRuleEnabled entry.plugin.name := by
  unfold enabledRules at h
  cases hall : registry.rulesFor kind tag with
  | error e =>
    rw [hall] at h
    cases h
  | ok all =>
    rw [hall] at h
    obtain rfl := Except.ok.inj h
    have hentries := Registry.rulesFor_eq_ok_iff.1 hall
    rw [← List.filter_filter, List.filter_comm, ← hentries, List.filter_map]
    rfl

/-- What a pass holds has a book. -/
theorem exists_book_of_treat {first : Representation (c.shape kind).Doc}
    {pass : Pass (c.shape kind)} (h : treat registry config parser first = .ok pass) :
    ∃ book : Book (c.shape kind), pass.left = book.last.left ∧ pass.applied = book.appliedCount ∧
      book.Kept registry config parser first := by
  obtain ⟨rules, fixer, hrules, hfixer, hloop, -⟩ := exists_of_treat h
  obtain ⟨book, hcovers, hleft, happlied⟩ := exists_book hloop.ending_eq
  exact ⟨book, hloop.left_eq.trans hleft, hloop.applied_eq.trans happlied, rules, fixer,
    entries_enabledRules hrules, hfixer, hcovers⟩

/-- The passes of a run have books, one for each representation. -/
theorem exists_books {representations : List (Representation (c.shape kind).Doc)}
    {passes : List (Pass (c.shape kind))}
    (h : Treated registry config parser representations passes) (outcome : FileOutcome) :
    ∃ books : List (Book (c.shape kind)),
      List.Forall₂ (fun r book => book.Kept registry config parser r) representations books ∧
      (passes.foldl Pass.record outcome).unresolved =
        outcome.unresolved ++ books.flatMap (fun book => book.last.left.findings) ∧
      (passes.foldl Pass.record outcome).applied =
        outcome.applied + (books.map Book.appliedCount).sum := by
  induction h generalizing outcome with
  | nil => exact ⟨[], .nil, (List.append_nil _).symm, rfl⟩
  | @cons r pass representations passes htreat hrest ih =>
    obtain ⟨book, hleft, happlied, hkept⟩ := exists_book_of_treat htreat
    obtain ⟨books, hbooks, hunresolved, hsum⟩ := ih (Pass.record outcome pass)
    refine ⟨book :: books, .cons hkept hbooks, ?_, ?_⟩
    · rw [List.foldl_cons, hunresolved, Pass.record, hleft, List.flatMap_cons, List.append_assoc]
    · rw [List.foldl_cons, hsum, Pass.record, happlied, List.map_cons, List.sum_cons,
        Nat.add_assoc]

/-- With a parser that can write, every round of a loop that does not fail has a record of all of
its diagnostics in the order of the rules. A run that does not fail has books of the loops over its
representations: it finds as unresolved what their last rounds have left, and it counts the fixes
applied in all of their rounds. -/
theorem fixFileWith_accounts {entry : Entry c Parser}
    (hentry : registry.parserEntry? name = some entry) (hwrite : entry.plugin.canWrite) :
    (∀ (rules : List (Rule (c.shape entry.kind))) fixer progress r changed,
      (round config rules fixer progress r).result = .ok changed →
        ∃ account : Account (c.shape entry.kind), account.shown = r ∧
          account.Holds config rules fixer ∧
          (round config rules fixer progress r).state.last = account.left ∧
          (round config rules fixer progress r).state.applied =
            progress.applied + account.report.appliedCount) ∧
    ∀ session session' outcome,
      exec (fixFileWith registry config name path) session = (.ok outcome, session') →
        ∃ representations books,
          (entry.plugin.parseFile session.files path).1 = .ok representations ∧
          List.Forall₂ (fun r (book : Book _) => book.Kept registry config entry.plugin r)
            representations books ∧
          outcome.unresolved = books.flatMap (fun book => book.last.left.findings) ∧
          outcome.applied = (books.map Book.appliedCount).sum := by
  refine ⟨fun _ _ _ _ _ hround => exists_account hround, fun session session' outcome hdone => ?_⟩
  obtain ⟨hreadOnly, -⟩ | ⟨-, representations, passes, hparsed, htreated, -, rfl⟩ :=
    (runsTo_of_entry hentry hdone).of_ok
  · exact absurd hwrite hreadOnly
  · obtain ⟨books, hbooks, hunresolved, happlied⟩ :=
      exists_books htreated (start entry.plugin name path)
    refine ⟨representations, books, hparsed, hbooks, hunresolved, ?_⟩
    rw [happlied]
    exact Nat.zero_add _

end

/-- In both rounds that are allowed something is inserted in front of the text, and another
insertion is rejected for it. The fix of a third rule is applied in the first round, and a fourth
rule has no fix. -/
theorem fixFileWith_accounts_rivals :
    let writer : Entry .plain Parser := ⟨.text, .text, Parser.text⟩
    let registry : Registry .plain := { Registry.builtins.registry with
      rules := [⟨.text, .text, claimFront "x"⟩, ⟨.text, .text, lastByte⟩,
        ⟨.text, .text, capital⟩, ⟨.text, .text, claimFront "y"⟩] }
    let config : Config := { maxIterations := 2 }
    let files := FileTree.empty.install ⟨"a.txt"⟩ (.file "ab".toUTF8)
    let done := exec (fixFileWith registry config "string" ⟨"a.txt"⟩) ⟨files, []⟩
    let findings : List Finding := [⟨"last byte", "a byte", ⟨2, 3⟩, .error, none⟩,
      ⟨"y", "not in front", ⟨0, 0⟩, .error, some (.conflict ⟨0, 0⟩ "x" ⟨0, 0⟩)⟩]
    writer.plugin.canWrite ∧
    done.1 = .ok ⟨⟨"a.txt"⟩, "string", .text, [.exhausted 2], 3, true, findings⟩ ∧
    ∃ book : Book (Catalogue.plain.shape writer.kind),
      book.Kept registry config writer.plugin ⟨.text, "ab", ⟨"a.txt"⟩⟩ ∧
      book.last.left.findings = findings ∧ book.appliedCount = 3 := by
  intro writer registry config files done findings
  have hdone : done.1 = .ok ⟨⟨"a.txt"⟩, "string", .text, [.exhausted 2], 3, true, findings⟩ := by
    decide +kernel
  have hread : files.readText ⟨"a.txt"⟩ = .ok "ab" := by decide +kernel
  have hbuilt : Parser.BuiltIn writer.plugin id id := .text _
  have hwriter : registry.parserEntry? "string" = some writer := rfl
  obtain ⟨-, hbooks⟩ := fixFileWith_accounts hwriter rfl
  obtain ⟨representations, books, hparsed, hkept, hunresolved, happlied⟩ :=
    hbooks _ _ _ (Prod.ext hdone rfl)
  obtain rfl := Except.ok.inj ((hbuilt.parseFile_of_readText hread).symm.trans hparsed)
  obtain ⟨book, rest, hbook, hrest, rfl⟩ := List.forall₂_cons_left_iff.1 hkept
  obtain rfl := List.forall₂_nil_left_iff.1 hrest
  rw [List.flatMap_singleton] at hunresolved
  exact ⟨rfl, hdone, book, hbook, hunresolved.symm, happlied.symm⟩

end FileRun

end Emend
