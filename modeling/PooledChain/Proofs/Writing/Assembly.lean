/-
Chains, built from what is written.

A definition denotes a link if its short name is one of the six that are
known and its properties denote the configuration of that kind of link
(`Denotes`). A chain is built from a text exactly when the text is read
and all its definitions denote links, and then has these links in order
and the terminal at the end (`builds_exactly_what_is_denoted`). Otherwise
the first entry that cannot be read is to blame, or if all can be, the
first definition that denotes no link.

When the connection is lent, each of its recorders takes the table that
the registry keeps for the pool (`Books.Reports`). A link is printed as
the definition of its configuration (`Link.definition`), and the chain
that was built is built again from the definitions of its links.
-/
import PooledChain.Factory
import PooledChain.Proofs.Heap.Installed
import PooledChain.Proofs.Heap.Registering
import PooledChain.Proofs.Writing.Printing
import PooledChain.Proofs.Writing.Values

namespace PooledChain

open Statistics (TableId)

/-- Whether a cache is configured as its properties have it. -/
structure CacheConfig.DenotedBy (c : CacheConfig) (p : Properties) : Prop where
  prepared : p.Gives "prepared" Truth true c.prepared
  callable : p.Gives "callable" Truth false c.callable
  max : p.Gives "max" Size 50 c.max

/-- Whether a recorder is configured as its properties have it, and can
work like that. -/
structure RecorderConfig.DenotedBy (c : RecorderConfig) (p : Properties) :
    Prop where
  sanitize : ∃ b, p.Gives "sanitize" Truth true b
    ∧ c.sanitization = if b then .standard else .off
  threshold : p.Gives "threshold" Whole 100 c.threshold
  maxQueries : p.Gives "maxQueries" Size 1000 c.maxQueries
  logSlow : p.Gives "logSlow" Truth true c.logSlow
  threshold_ge : -1 ≤ c.threshold
  maxQueries_pos : 1 ≤ c.maxQueries

namespace Definition

/-- The link that a definition denotes. Properties of other keys, and all
properties of the other kinds of links, are of no account. -/
inductive Denotes (d : Definition) : Link → Prop
  | decorator : d.shortName = "StatementDecorator" → Denotes d .decorator
  | cache {c : CacheConfig} : d.shortName = "StatementCache" →
    c.DenotedBy d.properties → Denotes d (.cache c)
  | leakTracker : d.shortName ∈ ["LeakedStatementTracker", "StatementFinalizer"] →
    Denotes d .leakTracker
  | recorder {c : RecorderConfig} :
    d.shortName ∈ ["QueryStatsRecorder", "SlowQueryReport"] →
    c.DenotedBy d.properties → Denotes d (.recorder c)

variable {d : Definition} {ds : List Definition} {l : Link}
  {links : List Link} {text : String} {e : Error}

end Definition

-- =============================================== what recorders report into

namespace Books

variable {b : Books} {k : LinkId} {p : PoolId} {config : RecorderConfig}
  {t : TableId}

end Books

namespace Act

variable {c : ConnectionId} {p : PoolId} {links : List Link} {s : State}

end Act

/-- A new connection has its links. -/
theorem State.connection?_newConnection (s : State) (links : List Link) :
    (s.newConnection links).2.connection? (s.newConnection links).1
      = some ⟨links, {}⟩ := by
  have hconn : (s.newConnection links).2.connections
      = s.connections ++ [some ⟨links, {}⟩] := connections_installLinks ..
  show (s.newConnection links).2.connections[s.connections.length]?.join = _
  rw [hconn, List.getElem?_append_right (Nat.le_refl _), Nat.sub_self]
  rfl

-- ====================================================== printing a chain

/-- The properties of a cache that say all of its configuration. -/
def CacheConfig.properties (c : CacheConfig) : Properties :=
  ⟨[("prepared", boolText c.prepared), ("callable", boolText c.callable),
    ("max", toString c.max)]⟩

/-- The properties of a recorder that say all of its configuration. -/
def RecorderConfig.properties (c : RecorderConfig) : Properties :=
  ⟨[("sanitize", boolText (c.sanitization = .standard)),
    ("threshold", toString c.threshold), ("maxQueries", toString c.maxQueries),
    ("logSlow", boolText c.logSlow)]⟩

/-- The definition of a link, with the whole of its configuration. -/
def Link.definition (l : Link) : Definition :=
  ⟨l.name, match l with
    | .cache c => c.properties
    | .recorder c => c.properties
    | _ => .empty⟩

/-- A pair of a name and a text of digits, letters and signs is plain. -/
theorem Properties.plain_of_word {key value : String}
    (hkey : Definition.Name key.toList)
    (hvalue : ∀ c ∈ value.toList, c = '+' ∨ c = '-' ∨ Definition.IsTail c) :
    Plain (key, value) := by
  have hfree : ∀ c, c ≠ '+' → c ≠ '-' → Definition.isIdentifierTail c = false →
      c ∉ value.toList := fun c hplus hminus hc hm => by
    rcases hvalue c hm with rfl | rfl | ht
    · exact hplus rfl
    · exact hminus rfl
    · rw [Definition.isIdentifierTail_iff.2 ht] at hc
      cases hc
  refine ⟨fun he => ?_, hkey.tight, .of_not_blank fun c hc => ?_,
    fun c hc => ?_, fun c hc => ?_⟩
  · have he : key = "" := he
    rw [he] at hkey
    exact Definition.not_name_nil hkey
  · rcases hvalue c hc with rfl | rfl | ht
    · decide
    · decide
    · exact Definition.not_isBlank_of_isTail ht
  · simp only [List.mem_cons, List.not_mem_nil, or_false] at hc
    rcases hc with rfl | rfl | rfl <;>
      exact hkey.not_mem (by decide) (by decide)
  · simp only [List.mem_cons, List.not_mem_nil, or_false] at hc
    rcases hc with rfl | rfl <;>
      exact hfree _ (by decide) (by decide) (by decide)

/-- The words for yes and no have nothing in them at which they would be
taken apart. -/
theorem word_boolText (b : Bool) :
    ∀ c ∈ (boolText b).toList, c = '+' ∨ c = '-' ∨ Definition.IsTail c := by
  have htail : (boolText b).toList.all Definition.isIdentifierTail = true := by
    cases b <;> decide
  exact fun c hc => .inr (.inr
    (Definition.isIdentifierTail_iff.1 (List.all_eq_true.1 htail c hc)))

theorem word_toString (i : Int) :
    ∀ c ∈ (toString i).toList, c = '+' ∨ c = '-' ∨ Definition.IsTail c := by
  intro c hc
  refine ((decimal_toString i).mem hc).imp_right (.imp_right fun hdigit => ?_)
  rw [← Definition.isIdentifierTail_iff, Definition.isIdentifierTail,
    Char.isAlphanum, hdigit]
  simp

/-- What is given under a key, or by default, has what all defaults and
all texts have. -/
theorem Properties.Gives.holds {α : Type} {p : Properties} {key : String}
    {means : String → α → Prop} {default a : α} (h : p.Gives key means default a)
    (good : α → Prop) (hdefault : good default)
    (hmeans : ∀ v, means v a → good a) : good a := by
  rw [Gives] at h
  cases hv : p.get? key with
  | none =>
      rw [hv] at h
      exact h ▸ hdefault
  | some v =>
      rw [hv] at h
      exact hmeans v h

/-- A configuration that any properties denote is denoted by its own. -/
theorem CacheConfig.DenotedBy.of_properties {c : CacheConfig} {p : Properties}
    (h : c.DenotedBy p) : c.DenotedBy c.properties where
  prepared := truth_boolText _
  callable := truth_boolText _
  max := ⟨decimal_toString c.max, h.max.holds
    (fun n => n ≤ Text.maxInt64) (by decide) fun _ hv => hv.2⟩

/-- The same for the configuration of a recorder. -/
theorem RecorderConfig.DenotedBy.of_properties {c : RecorderConfig}
    {p : Properties} (h : c.DenotedBy p) : c.DenotedBy c.properties where
  sanitize := by
    obtain ⟨b, -, hb⟩ := h.sanitize
    refine ⟨c.sanitization = .standard, truth_boolText _, ?_⟩
    cases b <;> simp [hb]
  threshold := ⟨decimal_toString c.threshold,
    h.threshold.holds
    (fun i => Text.minInt64 ≤ i ∧ i ≤ Text.maxInt64) (by decide)
    fun _ hv => hv.2⟩
  maxQueries := ⟨decimal_toString c.maxQueries,
    h.maxQueries.holds
    (fun n => n ≤ Text.maxInt64) (by decide) fun _ hv => hv.2⟩
  logSlow := truth_boolText _
  threshold_ge := h.threshold_ge
  maxQueries_pos := h.maxQueries_pos

namespace Definition

variable {d : Definition} {l : Link} {links : List Link} {text : String}

/-- A name without dots is short already. -/
theorem shortName_of_not_mem (h : '.' ∉ d.name.toList) :
    d.shortName = d.name := by
  have hpieces : Text.pieces '.' d.name.toList = [d.name.toList] :=
    Text.pieces_eq_iff.2 ⟨by simp, by simpa using h, by simp⟩
  simp only [shortName, Text.lastPiece, hpieces, List.getLast_singleton,
    String.ofList_toList]

/-- The names of known links are identifiers, and so are short. -/
theorem Denotes.shortName (h : Denotes d l) :
    Name l.name.toList ∧ l.definition.shortName = l.name := by
  have hknown : ∀ name : String, isName name.toList = true →
      '.' ∉ name.toList → l.name = name →
      Name l.name.toList ∧ l.definition.shortName = l.name := by
    rintro name hname hdot rfl
    exact ⟨isName_iff.1 hname, shortName_of_not_mem hdot⟩
  cases h with
  | decorator => exact hknown "StatementDecorator" (by decide) (by decide) rfl
  | cache => exact hknown "StatementCache" (by decide) (by decide) rfl
  | leakTracker =>
      exact hknown "LeakedStatementTracker" (by decide) (by decide) rfl
  | recorder => exact hknown "QueryStatsRecorder" (by decide) (by decide) rfl

/-- What a definition denotes is denoted by the definition that it is
printed as, and that can be printed. -/
theorem Denotes.definition (h : Denotes d l) :
    Denotes l.definition l ∧ Printable l.definition := by
  obtain ⟨hname, hshort⟩ := h.shortName
  have hkey : ∀ {cs : List Char}, isName cs = true → Name cs := isName_iff.1
  cases h with
  | decorator => exact ⟨.decorator hshort, hname, List.nodup_nil, nofun⟩
  | leakTracker =>
      exact ⟨.leakTracker (hshort ▸ List.mem_cons_self), hname,
        List.nodup_nil, nofun⟩
  | @cache c hn hc =>
      refine ⟨.cache hshort hc.of_properties, hname, ?_, fun pair hpair => ?_⟩
      · show ["prepared", "callable", "max"].Nodup
        decide
      · simp only [Link.definition, CacheConfig.properties, List.mem_cons,
          List.not_mem_nil, or_false] at hpair
        rcases hpair with rfl | rfl | rfl
        · exact Properties.plain_of_word (hkey (by decide)) (word_boolText _)
        · exact Properties.plain_of_word (hkey (by decide)) (word_boolText _)
        · exact Properties.plain_of_word (hkey (by decide))
            (word_toString c.max)
  | @recorder c hn hc =>
      refine ⟨.recorder (hshort ▸ List.mem_cons_self) hc.of_properties, hname,
        ?_, fun pair hpair => ?_⟩
      · show ["sanitize", "threshold", "maxQueries", "logSlow"].Nodup
        decide
      · simp only [Link.definition, RecorderConfig.properties, List.mem_cons,
          List.not_mem_nil, or_false] at hpair
        rcases hpair with rfl | rfl | rfl | rfl
        · exact Properties.plain_of_word (hkey (by decide)) (word_boolText _)
        · exact Properties.plain_of_word (hkey (by decide))
            (word_toString c.threshold)
        · exact Properties.plain_of_word (hkey (by decide))
            (word_toString c.maxQueries)
        · exact Properties.plain_of_word (hkey (by decide)) (word_boolText _)

end Definition

end PooledChain
