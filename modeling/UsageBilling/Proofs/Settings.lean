import Mathlib.Data.List.Find
import UsageBilling.Proofs.Texts
import UsageBilling.Settings

/-!
# Settings from an environment

Settings come from an environment exactly if the rejection policy is not given or
is a known one, in letters of any case and between blanks, and five names are
there. Otherwise the error is that of the policy, or else that of the first of
these names that is missing.

An option is a number or a flag. One that is missing and one whose value is not
of its type say the same, so an environment without some of the latter gives the
same settings, or the same error.
-/

namespace UsageBilling

/-! ## Policies -/

namespace RejectionPolicy

/-- The text names the policy, in letters of any case and between blanks. -/
inductive Named (p : RejectionPolicy) (s : String) : Prop where
  | between {before word after : List Char} (leading : Text.Blanks before)
      (trailing : Text.Blanks after) (any_case : word.map Char.toLower = p.name.toList)
      (same : s.toList = before ++ (word ++ after)) : Named p s

/-- A blank has no lower case, and no letter has a blank for it. -/
theorem isBlank_toLower (c : Char) : Text.isBlank c.toLower = Text.isBlank c := by
  have letter : ∀ {d : Char}, 65 ≤ d.toNat → d.toNat ≤ 122 → Text.isBlank d = false := by
    intro d low high
    simp [Text.isBlank, Text.blankRanges]
    omega
  unfold Char.toLower
  split
  next upper =>
    have low : 65 ≤ c.toNat := upper.1
    have high : c.toNat ≤ 90 := upper.2
    have lower : (c.val + ('a'.val - 'A'.val)).toNat = c.toNat + 32 := by
      show (c.val.toNat + 32) % 4294967296 = c.val.toNat + 32
      exact Nat.mod_eq_of_lt (Nat.lt_of_le_of_lt (Nat.add_le_add_right high 32) (by decide))
    rw [letter low (by omega), letter]
    · show 65 ≤ (c.val + ('a'.val - 'A'.val)).toNat
      omega
    · show (c.val + ('a'.val - 'A'.val)).toNat ≤ 122
      omega
  next => rfl

theorem name_solid (p : RejectionPolicy) : ∀ c ∈ p.name.toList, Text.isBlank c = false := by
  have solid : p.name.toList.all (fun c => !Text.isBlank c) = true := by cases p <;> rfl
  simpa using solid

/-- Trimmed and in small letters, a text is the name of a policy exactly if it names the policy. -/
theorem lowerAscii_trim_iff {p : RejectionPolicy} {s : String} :
    Text.lowerAscii (Text.trim s) = p.name ↔ p.Named s := by
  have lower : (Text.lowerAscii (Text.trim s)).toList =
      (Text.trimChars s.toList).map Char.toLower := by
    rw [Text.lowerAscii, String.toList_map, Text.trim, String.toList_ofList]
  rw [← String.toList_inj, lower]
  constructor
  · intro any_case
    obtain ⟨before, after, leading, trailing, same⟩ := Text.exists_trimChars s.toList
    exact .between leading trailing any_case same
  · rintro @⟨before, word, after, leading, trailing, any_case, same⟩
    have none : ∀ c ∈ word, Text.isBlank c = false := by
      intro c member
      rw [← isBlank_toLower]
      exact p.name_solid _ (any_case ▸ List.mem_map_of_mem member)
    rw [same, Text.trimChars_word leading trailing none, any_case]

theorem named_name (p : RejectionPolicy) : p.Named p.name :=
  .between Text.blanks_nil Text.blanks_nil (by cases p <;> decide) (List.append_nil _).symm

/-- A policy is read exactly from the texts that name it. -/
theorem ofText_eq_ok_iff {p : RejectionPolicy} {s : String} : ofText s = .ok p ↔ p.Named s := by
  have apart : duplicateOnly.name ≠ allRejected.name := by decide
  rw [← lowerAscii_trim_iff, ofText]
  generalize Text.lowerAscii (Text.trim s) = word
  split
  next first =>
    subst first
    cases p <;> simp [apart]
  next not_first =>
    split
    next second =>
      subst second
      cases p <;> simp [apart.symm]
    next not_second => cases p <;> simp [not_first, not_second]

/-- A text that names no policy is told back, trimmed and in small letters. -/
theorem ofText_unknown {s : String} (unknown : ∀ p : RejectionPolicy, ¬ p.Named s) :
    ofText s = .error ("Unknown rejection policy: " ++ Text.lowerAscii (Text.trim s)) := by
  simp only [← lowerAscii_trim_iff] at unknown
  rw [ofText, if_neg (unknown _), if_neg (unknown _)]

end RejectionPolicy

/-! ## Options -/

/-- What an option is. -/
inductive OptionForm where
  /-- A number up to a limit. -/
  | number (limit : Nat)
  | flag
  deriving DecidableEq, Repr

/-- A value of that type. -/
def OptionForm.Takes : OptionForm → String → Prop
  | number limit, value => ∃ n, Text.WritesBounded limit n value
  | flag, value => value = "true" ∨ value = "false"

/-- The names that are numbers or flags, none of which has to be there. -/
def Settings.options : List (String × OptionForm) :=
  [("DATABASE_MAX_CONNECTIONS", .number (UInt32.size - 1)),
    ("DATABASE_MIN_CONNECTIONS", .number (UInt32.size - 1)),
    ("METERING_PAGE_SIZE", .number (UInt64.size - 1)),
    ("METERING_TIMEOUT_SECS", .number (UInt64.size - 1)),
    ("BILLING_JOB_ENABLED", .flag),
    ("BILLING_MAX_ATTEMPTS", .number (UInt32.size - 1)),
    ("BILLING_BACKOFF_SECS", .number (UInt64.size - 1)),
    ("SMTP_ENABLED", .flag),
    ("SMTP_PORT", .number (UInt16.size - 1)),
    ("SMTP_TLS", .flag),
    ("SMTP_VERIFY_CERT", .flag)]

/-- The names that have to be there, in the order in which they are looked up. -/
def Settings.requiredNames : List String :=
  ["DATABASE_URL", "USAGE_ENDPOINT", "GLOBAL_CATALOG_SERVICE_ID", "IAM_ENDPOINT", "IAM_API_KEY"]

theorem readFlag_eq_none_iff {s : String} :
    Text.readFlag s = none ↔ ¬ OptionForm.flag.Takes s := by
  unfold Text.readFlag OptionForm.Takes
  split
  next => simp_all
  next => split <;> simp_all

/-- A number is not read from a text that is not a number within the limit. -/
theorem readBounded_eq_none_iff {limit : Nat} {s : String} :
    Text.readBounded limit s = none ↔ ¬ (OptionForm.number limit).Takes s := by
  rw [Option.eq_none_iff_forall_ne_some]
  simp only [OptionForm.Takes, not_exists, ← Text.readBounded_eq_some_iff, ne_eq]

namespace Environment

variable {env : Environment}

/-- The policy is the one that is named, or the standard one where none is. -/
inductive Chooses (env : Environment) : RejectionPolicy → Prop where
  | standard (absent : env.get? "METERING_REJECTION_POLICY" = none) : Chooses env .standard
  | named {policy : RejectionPolicy} {value : String}
      (given : env.get? "METERING_REJECTION_POLICY" = some value) (named : policy.Named value) :
      Chooses env policy

/-- The name is that of an option, but its value is not of that type. -/
inductive Malformed (env : Environment) (name : String) : Prop where
  | value {form : OptionForm} {value : String}
      (known : Settings.options.lookup name = some form) (given : env.get? name = some value)
      (malformed : ¬ form.Takes value) : Malformed env name

/-- What a number is: what is written for its name, or the default where no number is. -/
inductive Gives (env : Environment) (name : String) (limit fallback : Nat) : Nat → Prop where
  | written {n : Nat} {value : String} (given : env.get? name = some value)
      (written : Text.WritesBounded limit n value) : Gives env name limit fallback n
  | fallback (unset : ∀ value, env.get? name = some value →
      ¬ (OptionForm.number limit).Takes value) : Gives env name limit fallback fallback

/-- The environment without some names. -/
def without (env : Environment) (names : List String) : Environment :=
  env.filter fun entry => entry.1 ∉ names

/-- Without some names the others have their values. -/
theorem get?_without (names : List String) (name : String) :
    (env.without names).get? name = if name ∈ names then none else env.get? name := by
  rw [get?, get?, without, ← List.filter_reverse, List.find?_filter]
  split
  next removed =>
    rw [Option.map_eq_none_iff, List.find?_eq_none]
    intro entry _
    simp only [decide_eq_true_eq, not_and]
    rintro kept rfl
    exact kept removed
  next kept =>
    have same : ∀ entry ∈ env.reverse,
        decide (decide (entry.1 ∉ names) = true ∧ decide (entry.1 = name) = true) =
          decide (entry.1 = name) := by
      intro entry _
      by_cases found : entry.1 = name
      · simp [found, kept]
      · simp [found]
    rw [List.find?_congr same]

/-- A number that is not of its type is not read. -/
theorem Malformed.number {name : String} {limit : Nat} (h : env.Malformed name)
    (known : Settings.options.lookup name = some (.number limit)) :
    (env.get? name).bind (Text.readBounded limit) = none := by
  obtain ⟨known', given, malformed⟩ := h
  cases known.symm.trans known'
  rw [given, Option.bind_some, readBounded_eq_none_iff]
  exact malformed

/-- A number is what is written for it, or the default. -/
theorem gives_number (env : Environment) (name : String) (limit fallback : Nat) :
    env.Gives name limit fallback (env.number name limit fallback) := by
  unfold number
  cases given : env.get? name with
  | none => exact .fallback fun value other => by cases given.symm.trans other
  | some value =>
    rw [Option.bind_some]
    cases read : Text.readBounded limit value with
    | none =>
      refine .fallback fun value' other => ?_
      cases given.symm.trans other
      exact readBounded_eq_none_iff.1 read
    | some n => exact .written given (Text.readBounded_eq_some_iff.1 read)

/-- What is not of its type gives the default. -/
theorem Malformed.gives {name : String} {limit fallback n : Nat} (h : env.Malformed name)
    (known : Settings.options.lookup name = some (.number limit))
    (gives : env.Gives name limit fallback n) : n = fallback := by
  obtain ⟨known', given, malformed⟩ := h
  cases known.symm.trans known'
  cases gives with
  | written given' written =>
    cases given.symm.trans given'
    exact absurd ⟨n, written⟩ malformed
  | fallback => rfl

theorem Malformed.flag {name : String} (h : env.Malformed name)
    (known : Settings.options.lookup name = some .flag) :
    (env.get? name).bind Text.readFlag = none := by
  obtain ⟨known', given, malformed⟩ := h
  cases known.symm.trans known'
  rw [given, Option.bind_some, readFlag_eq_none_iff]
  exact malformed

end Environment

/-! ## Environments that say the same -/

namespace Settings

/-- The environments say the same of the listener, of each option, and of each other name. -/
structure Alike (env env' : Environment) : Prop where
  port : listenerPort env' = listenerPort env
  others : ∀ name, options.lookup name = none → env'.get? name = env.get? name
  numbers : ∀ name limit, options.lookup name = some (.number limit) →
    (env'.get? name).bind (Text.readBounded limit) = (env.get? name).bind (Text.readBounded limit)
  flags : ∀ name, options.lookup name = some .flag →
    (env'.get? name).bind Text.readFlag = (env.get? name).bind Text.readFlag

/-- Environments that say the same give the same settings or the same error. -/
theorem Alike.ofEnvironment_eq {env env' : Environment} (alike : Alike env env') :
    ofEnvironment env' = ofEnvironment env := by
  have values : ∀ name fallback, options.lookup name = none →
      env'.getOr name fallback = env.getOr name fallback := by
    intro name fallback other
    rw [Environment.getOr, alike.others name other, Environment.getOr]
  have texts : ∀ name, options.lookup name = none → env'.nonBlank? name = env.nonBlank? name := by
    intro name other
    rw [Environment.nonBlank?, alike.others name other, Environment.nonBlank?]
  have needed : ∀ name, options.lookup name = none → env'.required name = env.required name := by
    intro name other
    rw [Environment.required, alike.others name other, Environment.required]
  have numbers : ∀ name limit fallback, options.lookup name = some (.number limit) →
      env'.number name limit fallback = env.number name limit fallback := by
    intro name limit fallback known
    rw [Environment.number, alike.numbers name limit known, Environment.number]
  have flags : ∀ name fallback, options.lookup name = some .flag →
      env'.flag name fallback = env.flag name fallback := by
    intro name fallback known
    rw [Environment.flag, alike.flags name known, Environment.flag]
  have mail : mailSettings env' = mailSettings env := by
    unfold mailSettings
    simp (disch := decide) only [values, numbers, flags]
  have policy : rejectionPolicy env' = rejectionPolicy env := by
    rw [rejectionPolicy, values _ _ rfl, rejectionPolicy]
  unfold ofEnvironment
  simp (disch := decide) only [alike.port, policy, mail, alike.others, values, texts, needed,
    numbers, flags]

/-- The name of an option does not begin as that of a part of the settings. -/
theorem ofVariable?_option {name : String} {form : OptionForm}
    (known : options.lookup name = some form) (setting : List Char) (contents : String) :
    Assignment.ofVariable? setting name contents = none := by
  have apart : ∀ option ∈ options,
      Assignment.nameStart.isPrefixOf (Assignment.lowerName option.1) = false := by decide
  obtain ⟨before, after, split, -⟩ := List.lookup_eq_some_iff.1 known
  have member : (name, form) ∈ options := by
    rw [split]
    exact List.mem_append_right before (List.mem_cons_self ..)
  rw [Assignment.ofVariable?, apart _ member]
  rfl

/-- The first of some answers is among those that are kept. -/
theorem findSome?_filter_eq {α β : Type} {answer : α → Option β} {keep : α → Bool}
    {entries : List α} (silent : ∀ entry ∈ entries, keep entry = false → answer entry = none) :
    (entries.filter keep).findSome? answer = entries.findSome? answer := by
  induction entries with
  | nil => rfl
  | cons entry entries ih =>
    have later := ih fun other member => silent other (by simp [member])
    cases kept : keep entry with
    | true => rw [List.filter_cons_of_pos kept, List.findSome?_cons, later, List.findSome?_cons]
    | false =>
      rw [List.filter_cons_of_neg (by simp [kept]), later, List.findSome?_cons,
        silent entry (by simp) kept]

/-- Without some options that are not of their type, an environment says the same. -/
theorem alike_without {env : Environment} {names : List String}
    (malformed : ∀ name ∈ names, env.Malformed name) : Alike env (env.without names) where
  port := by
    have silent : ∀ entry ∈ env.reverse, decide (entry.1 ∉ names) = false →
        Assignment.ofVariable? "port".toList entry.1 entry.2 = none := by
      intro entry _ removed
      obtain ⟨known, -, -⟩ := malformed entry.1 (by simpa using removed)
      exact ofVariable?_option known _ _
    rw [listenerPort, listenerPort, Environment.without, ← List.filter_reverse]
    dsimp only
    rw [findSome?_filter_eq silent]
  others := by
    intro name other
    rw [Environment.get?_without, if_neg]
    intro removed
    obtain ⟨known, -, -⟩ := malformed name removed
    rw [other] at known
    cases known
  numbers := by
    intro name limit known
    rw [Environment.get?_without]
    split
    next removed => rw [(malformed name removed).number known, Option.bind_none]
    next => rfl
  flags := by
    intro name known
    rw [Environment.get?_without]
    split
    next removed => rw [(malformed name removed).flag known, Option.bind_none]
    next => rfl

/-! ## What an environment needs -/

section Needs

variable {env : Environment}

/-- The policy is the one that the environment chooses. -/
theorem rejectionPolicy_eq_ok_iff {policy : RejectionPolicy} :
    rejectionPolicy env = .ok policy ↔ env.Chooses policy := by
  unfold rejectionPolicy Environment.getOr
  cases given : env.get? "METERING_REJECTION_POLICY" with
  | none =>
    rw [Option.getD_none, RejectionPolicy.ofText_eq_ok_iff.2 (RejectionPolicy.named_name _)]
    constructor
    · rintro ⟨⟩
      exact .standard given
    · rintro (_ | ⟨given', -⟩)
      · rfl
      · cases given.symm.trans given'
  | some value =>
    rw [Option.getD_some]
    constructor
    · intro chosen
      cases read : RejectionPolicy.ofText value with
      | ok policy' =>
        rw [read] at chosen
        cases chosen
        exact .named given (RejectionPolicy.ofText_eq_ok_iff.1 read)
      | error reason =>
        rw [read] at chosen
        cases chosen
    · rintro (absent | ⟨given', named⟩)
      · cases given.symm.trans absent
      · cases given.symm.trans given'
        rw [RejectionPolicy.ofText_eq_ok_iff.2 named]

/-- An environment that chooses no policy has a text for it, and this is told back. -/
theorem rejectionPolicy_unknown (unknown : ∀ policy, ¬ env.Chooses policy) :
    ∃ value, env.get? "METERING_REJECTION_POLICY" = some value ∧
      rejectionPolicy env = .error (ErrorKind.configuration.because
        ("Unknown rejection policy: " ++ Text.lowerAscii (Text.trim value))) := by
  cases given : env.get? "METERING_REJECTION_POLICY" with
  | none => exact absurd (.standard given) (unknown _)
  | some value =>
    refine ⟨value, rfl, ?_⟩
    rw [rejectionPolicy, Environment.getOr, given, Option.getD_some,
      RejectionPolicy.ofText_unknown fun policy named => unknown policy (.named given named)]

/-- An unknown policy is the error, whatever is missing besides. -/
theorem ofEnvironment_unknown {port : Nat} (loads : listenerPort env = .ok port)
    (unknown : ∀ policy, ¬ env.Chooses policy) :
    ∃ value, env.get? "METERING_REJECTION_POLICY" = some value ∧
      ofEnvironment env = .error (ErrorKind.configuration.because
        ("Unknown rejection policy: " ++ Text.lowerAscii (Text.trim value))) := by
  obtain ⟨value, given, rejected⟩ := rejectionPolicy_unknown unknown
  refine ⟨value, given, ?_⟩
  rw [ofEnvironment, loads, rejected]
  rfl

/-- The first of some names that is missing gives the error, be it this one or one that is looked up
later. -/
theorem required_bind_missing {α : Type} {f : String → Except ServiceError α}
    {name missing : String} {names : List String}
    (first : (name :: names).find? (fun name => (env.get? name).isNone) = some missing)
    (later : names.find? (fun name => (env.get? name).isNone) = some missing → ∀ value,
      f value = .error (ErrorKind.configuration.because (missing ++ " is required"))) :
    (env.required name >>= f) =
      .error (ErrorKind.configuration.because (missing ++ " is required")) := by
  rw [List.find?_cons] at first
  unfold Environment.required
  cases given : env.get? name with
  | none =>
    rw [given] at first
    cases first
    rfl
  | some value =>
    rw [given] at first
    exact later first value

/-- The first name that is missing is the error, if a policy is chosen. -/
theorem ofEnvironment_missing {port : Nat} {policy : RejectionPolicy} {missing : String}
    (loads : listenerPort env = .ok port) (chosen : env.Chooses policy)
    (first : requiredNames.find? (fun name => (env.get? name).isNone) = some missing) :
    ofEnvironment env =
      .error (ErrorKind.configuration.because (missing ++ " is required")) := by
  rw [ofEnvironment, loads, rejectionPolicy_eq_ok_iff.2 chosen]
  refine required_bind_missing first fun first _ => ?_
  refine required_bind_missing first fun first _ => ?_
  refine required_bind_missing first fun first _ => ?_
  refine required_bind_missing first fun first _ => ?_
  refine required_bind_missing first fun first _ => ?_
  cases first

/-- What gives settings has all that it needs, since otherwise it gives an error. -/
theorem needs_of_ofEnvironment {port : Nat} {settings : Settings}
    (loads : listenerPort env = .ok port) (given : ofEnvironment env = .ok settings) :
    (∃ policy, env.Chooses policy) ∧ ∀ name ∈ requiredNames, (env.get? name).isSome := by
  have chosen : ∃ policy, env.Chooses policy := by
    by_contra none
    obtain ⟨value, -, failed⟩ := ofEnvironment_unknown loads (not_exists.1 none)
    cases given.symm.trans failed
  refine ⟨chosen, ?_⟩
  obtain ⟨policy, chosen⟩ := chosen
  cases first : requiredNames.find? (fun name => (env.get? name).isNone) with
  | none => simpa [Option.isSome_iff_ne_none] using List.find?_eq_none.1 first
  | some missing => cases given.symm.trans (ofEnvironment_missing loads chosen first)

/-- With a policy and all names there are settings, with a page and an attempt at least. -/
theorem ofEnvironment_complete {port : Nat} {policy : RejectionPolicy}
    (loads : listenerPort env = .ok port) (chosen : env.Chooses policy)
    (complete : ∀ name ∈ requiredNames, (env.get? name).isSome) :
    ∃ settings, ofEnvironment env = .ok settings ∧ settings.port = port ∧
      settings.metering.policy = policy ∧
      settings.metering.pageSize = max (env.number "METERING_PAGE_SIZE" (UInt64.size - 1) 100) 1 ∧
      settings.job.maxAttempts = max (env.number "BILLING_MAX_ATTEMPTS" (UInt32.size - 1) 3) 1 ∧
      settings.mail = mailSettings env := by
  have given : ∀ name ∈ requiredNames, ∃ value, env.required name = .ok value := by
    intro name member
    obtain ⟨value, found⟩ := Option.isSome_iff_exists.1 (complete name member)
    exact ⟨value, by rw [Environment.required, found]⟩
  obtain ⟨url, database⟩ := given "DATABASE_URL" (by decide)
  obtain ⟨endpoint, usage⟩ := given "USAGE_ENDPOINT" (by decide)
  obtain ⟨resource, catalog⟩ := given "GLOBAL_CATALOG_SERVICE_ID" (by decide)
  obtain ⟨tokens, iam⟩ := given "IAM_ENDPOINT" (by decide)
  obtain ⟨key, secret⟩ := given "IAM_API_KEY" (by decide)
  rw [ofEnvironment, loads, rejectionPolicy_eq_ok_iff.2 chosen, database, usage, catalog, iam,
    secret]
  exact ⟨_, rfl, rfl, rfl, rfl, rfl, rfl⟩

/-- Mail is encrypted if this is asked for in so many letters. -/
theorem tls_mailSettings : (mailSettings env).tls = true ↔ env.get? "SMTP_TLS" = some "true" := by
  show ((env.get? "SMTP_TLS").bind Text.readFlag).getD false = true ↔ _
  cases env.get? "SMTP_TLS" with
  | none => simp
  | some value =>
    rw [Option.bind_some, Text.readFlag]
    split
    next yes => simp [yes]
    next no => split <;> simp [no]

end Needs

/-- Where the listener has a port, an environment gives settings exactly if it chooses a policy and
has every name that has to be there. Otherwise the error is that of the policy, or that of the first
name that is missing. A page holds at least one record, and at least one attempt is made, whatever
numbers are given; the port of the relay follows the encryption where none is. Options that are not
of their type make no difference, however many of them there are. -/
theorem environment_decides {env : Environment} {port : Nat} (loads : listenerPort env = .ok port) :
    ((∃ settings, ofEnvironment env = .ok settings) ↔
      (∃ policy, env.Chooses policy) ∧ ∀ name ∈ requiredNames, (env.get? name).isSome) ∧
    ((∀ policy, ¬ env.Chooses policy) →
      ∃ value, env.get? "METERING_REJECTION_POLICY" = some value ∧
        ofEnvironment env = .error (ErrorKind.configuration.because
          ("Unknown rejection policy: " ++ Text.lowerAscii (Text.trim value)))) ∧
    (∀ policy missing, env.Chooses policy →
      requiredNames.find? (fun name => (env.get? name).isNone) = some missing →
      ofEnvironment env =
        .error (ErrorKind.configuration.because (missing ++ " is required"))) ∧
    (∀ settings, ofEnvironment env = .ok settings →
      settings.port = port ∧ env.Chooses settings.metering.policy ∧
      (∃ n, env.Gives "METERING_PAGE_SIZE" (UInt64.size - 1) 100 n ∧
        settings.metering.pageSize = max n 1) ∧
      (∃ n, env.Gives "BILLING_MAX_ATTEMPTS" (UInt32.size - 1) 3 n ∧
        settings.job.maxAttempts = max n 1) ∧
      (settings.mail.tls = true ↔ env.get? "SMTP_TLS" = some "true") ∧
      env.Gives "SMTP_PORT" (UInt16.size - 1) (if settings.mail.tls then 465 else 587)
        settings.mail.port) ∧
    (∀ names, (∀ name ∈ names, env.Malformed name) →
      ofEnvironment (env.without names) = ofEnvironment env) := by
  refine ⟨⟨?_, ?_⟩, ofEnvironment_unknown loads,
    fun policy missing chosen first => ofEnvironment_missing loads chosen first, ?_,
    fun names malformed => (alike_without malformed).ofEnvironment_eq⟩
  · rintro ⟨settings, given⟩
    exact needs_of_ofEnvironment loads given
  · rintro ⟨⟨policy, chosen⟩, all⟩
    obtain ⟨settings, given, -⟩ := ofEnvironment_complete loads chosen all
    exact ⟨settings, given⟩
  · intro settings given
    obtain ⟨⟨policy, chosen⟩, all⟩ := needs_of_ofEnvironment loads given
    obtain ⟨settings', given', at_port, with_policy, pages, attempts, mail⟩ :=
      ofEnvironment_complete loads chosen all
    cases given.symm.trans given'
    rw [with_policy, mail]
    exact ⟨at_port, chosen, ⟨_, env.gives_number _ _ _, pages⟩,
      ⟨_, env.gives_number _ _ _, attempts⟩, tls_mailSettings, env.gives_number _ _ _⟩

namespace Careless

/-- An environment with a port that is too large, a capital letter in a flag, and blanks around the
policy. -/
def env : Environment :=
  [("DATABASE_URL", "db"), ("USAGE_ENDPOINT", "usage"), ("GLOBAL_CATALOG_SERVICE_ID", "metering"),
    ("IAM_ENDPOINT", "iam"), ("IAM_API_KEY", ""), ("METERING_REJECTION_POLICY", " All_Rejected\n"),
    ("METERING_PAGE_SIZE", "0"), ("BILLING_JOB_ENABLED", "False"), ("SMTP_TLS", "true"),
    ("SMTP_PORT", "65536")]

theorem malformed : ∀ name ∈ ["SMTP_PORT", "BILLING_JOB_ENABLED"], env.Malformed name := by
  simp only [List.forall_mem_cons]
  refine ⟨.value rfl rfl (readBounded_eq_none_iff.1 rfl),
    .value rfl rfl (readFlag_eq_none_iff.1 rfl), by rintro _ ⟨⟩⟩

theorem chooses : env.Chooses .allRejected := by
  have named : RejectionPolicy.allRejected.Named " All_Rejected\n" :=
    @RejectionPolicy.Named.between _ _ [' '] "All_Rejected".toList ['\n']
      (List.forall_mem_singleton.2 rfl) (List.forall_mem_singleton.2 rfl) (by decide) rfl
  exact .named rfl named

theorem careless_loads : ∃ settings, ofEnvironment env = .ok settings ∧
    ofEnvironment (env.without ["SMTP_PORT", "BILLING_JOB_ENABLED"]) = .ok settings ∧
    1 ≤ settings.metering.pageSize ∧ settings.mail.port = 465 := by
  have loads : listenerPort env = .ok 8080 := rfl
  obtain ⟨enough, -, -, loaded, ignores⟩ := environment_decides loads
  obtain ⟨settings, given⟩ := enough.2 ⟨⟨_, chooses⟩, by decide⟩
  obtain ⟨-, -, ⟨n, -, pages⟩, -, tls, port⟩ := loaded settings given
  refine ⟨settings, given, (ignores _ malformed).trans given, ?_, ?_⟩
  · rw [pages]
    exact Nat.le_max_right n 1
  · rw [(malformed "SMTP_PORT" (by decide)).gives rfl port, tls.2 rfl]
    rfl

end Careless

end Settings

end UsageBilling
