import Mathlib.Data.List.Induction
import Mathlib.Data.Nat.Digits.Defs
import Gatehouse.Proofs.Listing

/-!
# Settings are read variable by variable

A deployment is set up by hand, so what its variables may say is told from the side of
whoever writes them: `DenotesNumber`, `DenotesMode` and `DenotesRealm` for single
values, and the ways to write a list of entries from `Listing`. None of them mentions
how a text is read.

There are two things to show. Each reader finds what its text denotes and nothing else
(`readNumber?_eq_some_iff` and its siblings), so settings are what the variables say.
And a reading stops at the first variable that is at fault (`StopsAtFirst`). The second
is built up from the end: to put one variable in front of a reading keeps it true
(`StopsAtFirst.readOr`), so it is true of all of them in their order.
-/

namespace Gatehouse.Proofs

open Gatehouse Text

/-! ## What a variable says -/

/-- A text denotes a number between two bounds: an optional plus, one or more decimal digits, and
any blanks around them. The digits count by their places, however many there are. -/
structure DenotesNumber (least greatest : Nat) (text : String) (n : Nat) : Prop where
  written : ∃ sign digits, Holds text.toList (sign ++ digits) ∧ (sign = [] ∨ sign = ['+'])
    ∧ digits ≠ [] ∧ (∀ c ∈ digits, c.isDigit = true)
    ∧ n = Nat.ofDigits 10 (digits.reverse.map (fun c => c.toNat - '0'.toNat))
  least_le : least ≤ n
  le_greatest : n ≤ greatest

def modeWord : Mode → String
  | .required => "required"
  | .optional => "optional"

/-- A text denotes a mode by its word, in letters of either case and with any blanks around it. -/
def DenotesMode (text : String) (mode : Mode) : Prop :=
  lowerAscii (trimString text) = modeWord mode

/-- Every text denotes a realm. -/
inductive DenotesRealm : Option String → String → Prop
  | unset : DenotesRealm none "authchain"
  | blank {text : String} : Blank text.toList → DenotesRealm (some text) "authchain"
  | named {text realm : String} : Holds text.toList realm.toList → DenotesRealm (some text) realm

/-- A variable that is set says what its text denotes, and one that is not says its default. -/
def Says {α : Type} (env : Environment) (setting : Setting) (default : α)
    (denotes : String → α → Prop) (value : α) : Prop :=
  match env setting.key with
  | none => value = default
  | some text => denotes text value

/-- The variables say these settings, each variable its own. -/
structure DenotesSettings (env : Environment) (settings : Settings) : Prop where
  tcpPort : Says env .tcpPort 3000 (DenotesNumber 0 65535) settings.tcpPort
  realm : DenotesRealm (env Setting.realm.key) settings.realm
  mode : Says env .mode .optional DenotesMode settings.mode
  tokens : Says env .tokens [] (DenotesEntries DenotesToken TokenEntry.token) settings.tokens
  users : Says env .users [] (DenotesEntries DenotesUser UserEntry.username) settings.users
  timeout : Says env .timeout 30 (DenotesNumber 1 (2 ^ 64 - 1)) settings.timeoutSecs
  bodyLimit : Says env .bodyLimit 1048576 (DenotesNumber 0 (2 ^ 64 - 1)) settings.bodyLimit

/-- There is something that the text says about this setting. -/
def WellFormed : Setting → String → Prop
  | .tcpPort, text => ∃ n, DenotesNumber 0 65535 text n
  | .realm, text => ∃ realm, DenotesRealm (some text) realm
  | .mode, text => ∃ mode, DenotesMode text mode
  | .tokens, text => ∃ entries, DenotesEntries DenotesToken TokenEntry.token text entries
  | .users, text => ∃ entries, DenotesEntries DenotesUser UserEntry.username text entries
  | .timeout, text => ∃ n, DenotesNumber 1 (2 ^ 64 - 1) text n
  | .bodyLimit, text => ∃ n, DenotesNumber 0 (2 ^ 64 - 1) text n

/-- A variable is not set, or it says something. -/
def Acceptable (env : Environment) (setting : Setting) : Prop :=
  ∀ text, env setting.key = some text → WellFormed setting text

/-- The order in which variables are held against what they may say. There is nothing to hold a
realm against. -/
def readingOrder : List Setting := [.tcpPort, .mode, .tokens, .users, .timeout, .bodyLimit]

/-- A variable that cannot be accepted, while all that come before it can. -/
def FirstFault (env : Environment) (order : List Setting) (setting : Setting) : Prop :=
  ∃ before after, order = before ++ setting :: after
    ∧ (∀ earlier ∈ before, Acceptable env earlier) ∧ ¬ Acceptable env setting

/-! ## Reading a variable -/

theorem ofDigitChars_eq_ofDigits (digits : List Char) :
    Nat.ofDigitChars 10 digits 0 =
      Nat.ofDigits 10 (digits.reverse.map (fun c => c.toNat - '0'.toNat)) := by
  induction digits using List.reverseRecOn with
  | nil => rfl
  | append_singleton digits c ih =>
      rw [Nat.ofDigitChars_append, Nat.ofDigitChars_cons, ih, List.reverse_concat, List.map_cons,
        Nat.ofDigits_cons, Nat.add_comm]
      rfl

theorem exists_sign (cs : List Char) :
    ∃ sign, cs = sign ++ dropPlus cs ∧ (sign = [] ∨ sign = ['+']) := by
  rw [dropPlus.eq_def]
  split
  · exact ⟨['+'], rfl, .inr rfl⟩
  · exact ⟨[], rfl, .inl rfl⟩

theorem dropPlus_signed {sign digits : List Char} (hsign : sign = [] ∨ sign = ['+'])
    (hdigits : ∀ c ∈ digits, c.isDigit = true) : dropPlus (sign ++ digits) = digits := by
  rcases hsign with rfl | rfl
  · rw [List.nil_append, dropPlus.eq_def]
    split
    · -- a plus is no digit
      exact absurd (hdigits '+' List.mem_cons_self) (by decide)
    · rfl
  · rfl

theorem readNumber?_eq_some_iff {greatest : Nat} {text : String} {n : Nat} :
    Settings.readNumber? greatest text = some n ↔ DenotesNumber 0 greatest text n := by
  rw [Settings.readNumber?, readNat?_eq_some_iff]
  refine ⟨?_, ?_⟩
  · rintro ⟨hsome, hdigits, hvalue, hle⟩
    obtain ⟨sign, hsplit, hsign⟩ := exists_sign (trim text.toList)
    have hheld : Holds text.toList (sign ++ dropPlus (trim text.toList)) :=
      holds_iff.mpr ⟨hsplit, fun hnil => hsome (List.append_eq_nil_iff.mp hnil).2⟩
    refine ⟨⟨sign, _, hheld, hsign, hsome, hdigits, ?_⟩, Nat.zero_le n, hle⟩
    rw [← ofDigitChars_eq_ofDigits, hvalue]
  · rintro ⟨⟨sign, digits, hheld, hsign, hsome, hdigits, hvalue⟩, _, hle⟩
    rw [(holds_iff.mp hheld).1, dropPlus_signed hsign hdigits, ofDigitChars_eq_ofDigits]
    exact ⟨hsome, hdigits, hvalue.symm, hle⟩

theorem readTimeout?_eq_some_iff {text : String} {n : Nat} :
    Settings.readTimeout? text = some n ↔ DenotesNumber 1 Settings.greatestWord text n := by
  rw [Settings.readTimeout?, Option.filter_eq_some_iff, readNumber?_eq_some_iff, decide_eq_true_eq]
  refine ⟨?_, ?_⟩
  · rintro ⟨⟨hwritten, _, hle⟩, hpos⟩
    exact ⟨hwritten, hpos, hle⟩
  · rintro ⟨hwritten, hpos, hle⟩
    exact ⟨⟨hwritten, Nat.zero_le n, hle⟩, hpos⟩

theorem readMode?_eq_some_iff {text : String} {mode : Mode} :
    Mode.read? text = some mode ↔ DenotesMode text mode := by
  rw [Mode.read?, DenotesMode]
  split
  · rename_i hword
    rw [hword]
    cases mode with
    | required => simp [modeWord]
    | optional => simp [modeWord]
  · rename_i hword
    rw [hword]
    cases mode with
    | required => simp [modeWord]
    | optional => simp [modeWord]
  · rename_i hrequired hoptional
    refine ⟨fun h => (nomatch h), fun h => ?_⟩
    cases mode with
    | required => exact absurd h hrequired
    | optional => exact absurd h hoptional

theorem realmOf_eq_iff {text : Option String} {realm : String} :
    Settings.realmOf text = realm ↔ DenotesRealm text realm := by
  cases text with
  | none =>
      refine ⟨?_, ?_⟩
      · rintro rfl
        exact .unset
      · rintro ⟨⟩
        rfl
  | some text =>
      by_cases hblank : Blank text.toList
      · have hread : Settings.realmOf (some text) = "authchain" := by
          simp [Settings.realmOf, trimString, trim_eq_nil_iff.mpr hblank, Option.filter,
            Settings.defaultRealm]
        rw [hread]
        refine ⟨?_, ?_⟩
        · rintro rfl
          exact .blank hblank
        · rintro (_ | _ | hholds)
          · rfl
          · obtain ⟨htrim, hne⟩ := holds_iff.mp hholds
            exact absurd (htrim.symm.trans (trim_eq_nil_iff.mpr hblank)) hne
      · have hsome : trim text.toList ≠ [] := mt trim_eq_nil_iff.mp hblank
        have hread : Settings.realmOf (some text) = String.ofList (trim text.toList) := by
          simp [Settings.realmOf, trimString, Option.filter, hsome]
        rw [hread, ofList_eq_iff]
        refine ⟨?_, ?_⟩
        · intro htrim
          exact .named (holds_iff.mpr ⟨htrim, htrim ▸ hsome⟩)
        · rintro (_ | hfield | hholds)
          · exact absurd hfield hblank
          · exact (holds_iff.mp hholds).1

/-! ## Reading all of them -/

section Variable

variable {α β : Type} {env : Environment} {setting : Setting} {default value : α}
  {read? : String → Option α}

theorem readOr_eq_ok_iff {denotes : String → α → Prop}
    (h : ∀ text v, read? text = some v ↔ denotes text v) :
    Settings.readOr env setting default read? = .ok value ↔
      Says env setting default denotes value := by
  rw [Settings.readOr, Says]
  cases env setting.key with
  | none =>
      dsimp only
      rw [Except.ok.injEq, eq_comm]
  | some text =>
      dsimp only
      rw [← h]
      cases read? text with
      | none => simp
      | some v =>
          dsimp only
          rw [Except.ok.injEq, Option.some.injEq]

/-- A variable is read, or it is not acceptable and is itself reported. -/
theorem readOr_ok_or_error (h : ∀ text, (∃ v, read? text = some v) ↔ WellFormed setting text) :
    (Acceptable env setting ∧ ∃ v, Settings.readOr env setting default read? = .ok v)
      ∨ (¬ Acceptable env setting
        ∧ Settings.readOr env setting default read? = .error (.invalid setting)) := by
  rw [Settings.readOr, Acceptable]
  cases env setting.key with
  | none => exact .inl ⟨fun text htext => absurd htext (by simp), default, rfl⟩
  | some text =>
      simp only [Option.some.injEq, forall_eq', ← h]
      cases read? text with
      | none => exact .inr ⟨by simp, rfl⟩
      | some v => exact .inl ⟨⟨v, rfl⟩, v, rfl⟩

end Variable

theorem firstFault_cons_iff {env : Environment} {setting found : Setting} {order : List Setting} :
    FirstFault env (setting :: order) found ↔
      (found = setting ∧ ¬ Acceptable env setting)
        ∨ (Acceptable env setting ∧ FirstFault env order found) := by
  refine ⟨?_, ?_⟩
  · rintro ⟨before, after, hsplit, hbefore, hfault⟩
    cases before with
    | nil =>
        obtain ⟨rfl, rfl⟩ := List.cons.inj hsplit
        exact .inl ⟨rfl, hfault⟩
    | cons earlier before =>
        obtain ⟨rfl, rfl⟩ := List.cons.inj hsplit
        obtain ⟨hearlier, hbefore⟩ := List.forall_mem_cons.mp hbefore
        exact .inr ⟨hearlier, before, after, rfl, hbefore, hfault⟩
  · rintro (⟨rfl, hfault⟩ | ⟨hsetting, before, after, rfl, hbefore, hfault⟩)
    · exact ⟨[], order, rfl, List.forall_mem_nil _, hfault⟩
    · exact ⟨setting :: before, after, rfl, List.forall_mem_cons.mpr ⟨hsetting, hbefore⟩, hfault⟩

theorem not_firstFault_nil {env : Environment} {found : Setting} : ¬ FirstFault env [] found := by
  rintro ⟨before, after, hsplit, _⟩
  exact absurd hsplit.symm (by simp)

theorem exists_firstFault_iff {env : Environment} {order : List Setting} :
    (∃ found, FirstFault env order found) ↔ ∃ setting ∈ order, ¬ Acceptable env setting := by
  refine ⟨?_, ?_⟩
  · rintro ⟨found, before, after, rfl, _, hfault⟩
    exact ⟨found, List.mem_append_right before List.mem_cons_self, hfault⟩
  · rintro ⟨setting, hmem, hfault⟩
    induction order with
    | nil => exact absurd hmem List.not_mem_nil
    | cons first order ih =>
        by_cases hfirst : Acceptable env first
        · rcases List.mem_cons.mp hmem with rfl | hmem
          · exact absurd hfirst hfault
          · obtain ⟨found, hfound⟩ := ih hmem
            exact ⟨found, firstFault_cons_iff.mpr (.inr ⟨hfirst, hfound⟩)⟩
        · exact ⟨first, firstFault_cons_iff.mpr (.inl ⟨rfl, hfirst⟩)⟩

/-- A reading that goes through these variables stops at the first one that is at fault, reports
that one, and stops for no other reason. -/
def StopsAtFirst {α : Type} (env : Environment) (order : List Setting)
    (reading : Except SettingsError α) : Prop :=
  ∀ error, reading = .error error ↔
    ∃ setting, error = .invalid setting ∧ FirstFault env order setting

theorem stopsAtFirst_ok {α : Type} {env : Environment} (value : α) :
    StopsAtFirst env [] (.ok value) := by
  intro error
  refine ⟨fun h => (nomatch h), ?_⟩
  rintro ⟨setting, _, hfault⟩
  exact absurd hfault not_firstFault_nil

/-- Reading one variable more, before the others. -/
theorem StopsAtFirst.readOr {α β : Type} {env : Environment} {setting : Setting} {default : α}
    {read? : String → Option α} {order : List Setting} {rest : α → Except SettingsError β}
    (h : ∀ text, (∃ v, read? text = some v) ↔ WellFormed setting text)
    (hrest : ∀ v, StopsAtFirst env order (rest v)) :
    StopsAtFirst env (setting :: order) (Settings.readOr env setting default read? >>= rest) := by
  intro error
  simp only [firstFault_cons_iff]
  rcases @readOr_ok_or_error _ env _ default _ h with
    ⟨haccept, v, hread⟩ | ⟨hfault, hread⟩
  · rw [hread]
    refine (hrest v error).trans (exists_congr fun found => and_congr_right fun _ => ?_)
    refine ⟨fun hfound => .inr ⟨haccept, hfound⟩, ?_⟩
    rintro (⟨_, hfault⟩ | ⟨_, hfound⟩)
    · exact absurd haccept hfault
    · exact hfound
  · rw [hread]
    refine ⟨fun h => ⟨setting, (Except.error.inj h).symm, .inl ⟨rfl, hfault⟩⟩, ?_⟩
    rintro ⟨found, rfl, ⟨rfl, _⟩ | ⟨haccept, _⟩⟩
    · rfl
    · exact absurd haccept hfault

theorem stopsAtFirst_read (env : Environment) :
    StopsAtFirst env readingOrder (Settings.read env) := by
  refine .readOr (fun _ => exists_congr fun _ => readNumber?_eq_some_iff) fun tcpPort => ?_
  refine .readOr (fun _ => exists_congr fun _ => readMode?_eq_some_iff) fun mode => ?_
  refine .readOr (fun _ => exists_congr fun _ => readTokens?_eq_some_iff) fun tokens => ?_
  refine .readOr (fun _ => exists_congr fun _ => readUsers?_eq_some_iff) fun users => ?_
  refine .readOr (fun _ => exists_congr fun _ => readTimeout?_eq_some_iff) fun timeoutSecs => ?_
  refine .readOr (fun _ => exists_congr fun _ => readNumber?_eq_some_iff) fun bodyLimit => ?_
  exact stopsAtFirst_ok _

/-- What the variables say is what is read. -/
theorem read_eq_ok_iff_denotes {env : Environment} {settings : Settings} :
    Settings.read env = .ok settings ↔ DenotesSettings env settings := by
  rw [read_eq_ok_iff, realmOf_eq_iff, readOr_eq_ok_iff fun _ _ => readNumber?_eq_some_iff,
    readOr_eq_ok_iff fun _ _ => readMode?_eq_some_iff,
    readOr_eq_ok_iff fun _ _ => readTokens?_eq_some_iff,
    readOr_eq_ok_iff fun _ _ => readUsers?_eq_some_iff,
    readOr_eq_ok_iff fun _ _ => readTimeout?_eq_some_iff,
    readOr_eq_ok_iff fun _ _ => readNumber?_eq_some_iff]
  refine ⟨?_, ?_⟩
  · rintro ⟨hport, hrealm, hmode, htokens, husers, htimeout, hbody⟩
    exact ⟨hport, hrealm, hmode, htokens, husers, htimeout, hbody⟩
  · intro h
    exact ⟨h.tcpPort, h.realm, h.mode, h.tokens, h.users, h.timeout, h.bodyLimit⟩

theorem acceptable_realm (env : Environment) : Acceptable env .realm :=
  fun _ _ => ⟨_, realmOf_eq_iff.mp rfl⟩

/-- Every variable but the realm is held against what it may say. -/
theorem mem_readingOrder_iff {setting : Setting} : setting ∈ readingOrder ↔ setting ≠ .realm := by
  cases setting <;> decide

theorem exists_read_iff {env : Environment} :
    (∃ settings, Settings.read env = .ok settings) ↔ ∀ setting, Acceptable env setting := by
  have hstops := stopsAtFirst_read env
  cases hread : Settings.read env with
  | ok settings =>
      refine ⟨fun _ setting => Classical.byContradiction fun hfault => ?_, fun _ => ⟨settings, rfl⟩⟩
      have horder : setting ∈ readingOrder :=
        mem_readingOrder_iff.mpr fun hrealm => hfault (hrealm ▸ acceptable_realm env)
      obtain ⟨found, hfound⟩ := exists_firstFault_iff.mpr ⟨setting, horder, hfault⟩
      exact nomatch hread.symm.trans ((hstops _).mpr ⟨found, rfl, hfound⟩)
  | error error =>
      refine ⟨fun h => (nomatch h), fun hall => ?_⟩
      obtain ⟨found, _, hfound⟩ := (hstops error).mp hread
      obtain ⟨setting, _, hfault⟩ := exists_firstFault_iff.mp ⟨found, hfound⟩
      exact absurd (hall setting) hfault

/-- Two readings have found the same for this setting. -/
def AgreeOn (settings settings' : Settings) : Setting → Prop
  | .tcpPort => settings.tcpPort = settings'.tcpPort
  | .realm => settings.realm = settings'.realm
  | .mode => settings.mode = settings'.mode
  | .tokens => settings.tokens = settings'.tokens
  | .users => settings.users = settings'.users
  | .timeout => settings.timeoutSecs = settings'.timeoutSecs
  | .bodyLimit => settings.bodyLimit = settings'.bodyLimit

theorem readOr_congr {α : Type} {env env' : Environment} {setting : Setting} {default v v' : α}
    {read? : String → Option α} (hsame : env setting.key = env' setting.key)
    (h : Settings.readOr env setting default read? = .ok v)
    (h' : Settings.readOr env' setting default read? = .ok v') : v = v' := by
  rw [Settings.readOr, hsame] at h
  exact Except.ok.inj (h.symm.trans h')

/-- What is found for a setting depends on nothing but its variable. -/
theorem agreeOn_of_same {env env' : Environment} {settings settings' : Settings} {setting : Setting}
    (h : Settings.read env = .ok settings) (h' : Settings.read env' = .ok settings')
    (hsame : env setting.key = env' setting.key) : AgreeOn settings settings' setting := by
  obtain ⟨hport, hrealm, hmode, htokens, husers, htimeout, hbody⟩ := read_eq_ok_iff.mp h
  obtain ⟨hport', hrealm', hmode', htokens', husers', htimeout', hbody'⟩ := read_eq_ok_iff.mp h'
  cases setting with
  | tcpPort => exact readOr_congr hsame hport hport'
  | realm => exact hrealm.symm.trans ((congrArg Settings.realmOf hsame).trans hrealm')
  | mode => exact readOr_congr hsame hmode hmode'
  | tokens => exact readOr_congr hsame htokens htokens'
  | users => exact readOr_congr hsame husers husers'
  | timeout => exact readOr_congr hsame htimeout htimeout'
  | bodyLimit => exact readOr_congr hsame hbody hbody'

/-- What reading variable by variable comes to. -/
structure ReadOneByOne (env : Environment) : Prop where
  /-- There are settings exactly if there is nothing wrong with any variable. -/
  accepted : (∃ settings, Settings.read env = .ok settings) ↔ ∀ setting, Acceptable env setting
  /-- The realm is never what is wrong. -/
  anyRealm : Acceptable env .realm
  /-- If there are none, the first variable with something wrong is reported. -/
  refused : StopsAtFirst env readingOrder (Settings.read env)
  /-- The settings are what the variables say. -/
  settings : ∀ settings, Settings.read env = .ok settings ↔ DenotesSettings env settings
  /-- Other variables have no say in a setting. -/
  own : ∀ env' settings settings' setting, Settings.read env = .ok settings →
    Settings.read env' = .ok settings' → env setting.key = env' setting.key →
    AgreeOn settings settings' setting

/--
**Settings are accepted exactly when each variable is.**

What a variable may say is told from the side of whoever writes it; how it is read has no part in
it. So this covers numbers of any length, which are exact or out of bounds and never wrap around.
-/
theorem read_one_by_one (env : Environment) : ReadOneByOne env where
  accepted := exists_read_iff
  anyRealm := acceptable_realm env
  refused := stopsAtFirst_read env
  settings _ := read_eq_ok_iff_denotes
  own _ _ _ _ h h' hsame := agreeOn_of_same h h' hsame

/-- Written by hand: blanks of all kinds, a plus, zeros in front, a realm of blanks alone. -/
def handwritten : Environment
  | "PORT" => some "\u00a0+00065535\n"
  | "AUTH_REALM" => some " \t"
  | "AUTH_MODE" => some " ReQuired"
  | "AUTH_TOKENS" => some " t1 : Ann : admin | | user ,, t2:Bob,"
  | "REQUEST_TIMEOUT_SECS" => some "18446744073709551615"
  | _ => none

example : Settings.read handwritten = .ok
    { tcpPort := 65535, realm := "authchain", mode := .required
      tokens := [⟨"t1", "Ann", ["admin", "user"]⟩, ⟨"t2", "Bob", []⟩], users := []
      timeoutSecs := 18446744073709551615, bodyLimit := 1048576 } := by
  decide +kernel

-- of five variables at fault the first in the order is reported
example : Settings.read (fun key => if key = "PORT" then handwritten key else some "0x") =
    .error (.invalid .mode) := by
  decide +kernel

end Gatehouse.Proofs
