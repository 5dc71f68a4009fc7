import CardPayments.Redaction
import Mathlib.Data.List.Basic

/-!
# Redaction leaks nothing

A redacted value is entered by the same steps as before. As long as no step goes through a sensitive
key, what is found has kept its shape, but that tuples have become lists; behind a sensitive key
there is the cover, whatever stood there. So values that differ behind sensitive keys alone become
the same, and what has been redacted stays as it is.
-/

namespace CardPayments.LogValue

variable {κ α : Type}

/-! ## What stands where -/

/-- A step into a list, a tuple or a table. -/
inductive Step (κ : Type) where
  /-- To an item, by its place. -/
  | item (i : Nat)
  /-- To the value under a key. -/
  | entry (key : κ)

/-- What a step leads to. -/
def enter? [DecidableEq κ] : LogValue κ α → Step κ → Option (LogValue κ α)
  | .list items, .item i => items[i]?
  | .tuple items, .item i => items[i]?
  | .table entries, .entry key => entries.lookup key
  | _, _ => none

/-- What the steps of a path lead to, one after the other. -/
def at? [DecidableEq κ] (v : LogValue κ α) (path : List (Step κ)) : Option (LogValue κ α) :=
  path.foldlM enter? v

/-- The last step is taken from where the others have led. -/
theorem at?_concat [DecidableEq κ] (v : LogValue κ α) (path : List (Step κ))
    (step : Step κ) :
    v.at? (path ++ [step]) = (v.at? path).bind (·.enter? step) := by
  unfold at?
  rw [List.foldlM_append]
  cases List.foldlM enter? v path with
  | none => rfl
  | some inner => exact bind_pure (inner.enter? step)

/-- What a value is, apart from the values in it. -/
inductive Shape (κ α : Type) where
  /-- A text. -/
  | text (s : String)
  /-- A scalar that is no text. -/
  | scalar (a : α)
  /-- A list of so many values. -/
  | list (length : Nat)
  /-- A tuple of so many values. -/
  | tuple (length : Nat)
  /-- A table with these keys, in this order. -/
  | table (keys : List κ)

/-- The shape of a value. -/
def shape : LogValue κ α → Shape κ α
  | .text s => .text s
  | .scalar a => .scalar a
  | .list items => .list items.length
  | .tuple items => .tuple items.length
  | .table entries => .table (entries.map Prod.fst)

/-- A shape with a list for a tuple. -/
def Shape.listed : Shape κ α → Shape κ α
  | .tuple length => .list length
  | s => s

/-- Whether two values are the same but for what stands behind hidden keys. The keys of two tables
have to stand in the order to each other. -/
inductive SameBut (hidden : κ → Bool) (order : List κ → List κ → Prop) :
    LogValue κ α → LogValue κ α → Prop
  /-- The same text. -/
  | text (s : String) : SameBut hidden order (.text s) (.text s)
  /-- The same scalar. -/
  | scalar (a : α) : SameBut hidden order (.scalar a) (.scalar a)
  /-- Lists of the same length, item by item. -/
  | list {as bs} (length : as.length = bs.length)
      (items : ∀ (i : Nat) a b, as[i]? = some a → bs[i]? = some b → SameBut hidden order a b) :
      SameBut hidden order (.list as) (.list bs)
  /-- Tuples of the same length, item by item. -/
  | tuple {as bs} (length : as.length = bs.length)
      (items : ∀ (i : Nat) a b, as[i]? = some a → bs[i]? = some b → SameBut hidden order a b) :
      SameBut hidden order (.tuple as) (.tuple bs)
  /-- Tables with keys in the order, by every key that is not hidden. -/
  | table {as bs} (keys : order (as.map Prod.fst) (bs.map Prod.fst))
      (entries : ∀ key a b, (key, a) ∈ as → (key, b) ∈ bs → hidden key = false →
        SameBut hidden order a b) :
      SameBut hidden order (.table as) (.table bs)

/-- With nothing hidden, and keys in one order, only the same value is the same. -/
theorem SameBut.eq {v w : LogValue κ α} (h : SameBut (fun _ => false) Eq v w) : v = w := by
  have items_eq {as bs : List (LogValue κ α)} (length : as.length = bs.length)
      (ih : ∀ (i : Nat) a b, as[i]? = some a → bs[i]? = some b → a = b) : as = bs := by
    refine List.ext_getElem length fun i ha hb => ?_
    exact ih i _ _ (List.getElem?_eq_getElem ha) (List.getElem?_eq_getElem hb)
  induction h with
  | text s => rfl
  | scalar a => rfl
  | list length _ ih => rw [items_eq length ih]
  | tuple length _ ih => rw [items_eq length ih]
  | @table as bs keys _ ih =>
    have length : as.length = bs.length := by simpa using congrArg List.length keys
    congr 1
    refine List.ext_getElem length fun i ha hb => ?_
    have hkey : as[i].1 = bs[i].1 := by
      have hkeys := congrArg (·[i]?) keys
      simpa [ha, hb] using hkeys
    refine Prod.ext hkey (ih as[i].1 _ _ (List.getElem_mem ha) ?_ rfl)
    rw [hkey]
    exact List.getElem_mem hb

/-! ## Redaction, step by step -/

variable [ToString κ]

theorem redactItems_eq_map (items : List (LogValue κ α)) :
    redactItems items = items.map redact := by
  induction items with
  | nil => rfl
  | cons item items ih => rw [redactItems, ih, List.map_cons]

/-- What comes of the value under a key. -/
def redactUnder (key : κ) (v : LogValue κ α) : LogValue κ α :=
  if isSensitive key then cover else v.redact

theorem redactEntries_eq_map (entries : List (κ × LogValue κ α)) :
    redactEntries entries = entries.map fun entry => (entry.1, redactUnder entry.1 entry.2) := by
  induction entries with
  | nil => rfl
  | cons entry entries ih => rw [redactEntries, ih, List.map_cons, redactUnder]

/-- Texts and scalars are kept, lists and tables keep their length and their keys, and tuples become
lists of their length. -/
theorem shape_redact (v : LogValue κ α) : v.redact.shape = v.shape.listed := by
  cases v with
  | text s => rfl
  | scalar a => rfl
  | list items => simp only [redact, shape, Shape.listed, redactItems_eq_map, List.length_map]
  | tuple items => simp only [redact, shape, Shape.listed, redactItems_eq_map, List.length_map]
  | table entries =>
    simp only [redact, shape, Shape.listed, redactEntries_eq_map, List.map_map]
    rfl

section Paths

variable [DecidableEq κ]

theorem lookup_redactEntries (entries : List (κ × LogValue κ α)) (key : κ) :
    (redactEntries entries).lookup key = (entries.lookup key).map (redactUnder key) := by
  induction entries with
  | nil => rfl
  | cons entry entries ih =>
    rw [redactEntries, List.lookup_cons, List.lookup_cons, ih]
    cases hkey : key == entry.1 with
    | false => rfl
    | true => rw [beq_iff_eq.1 hkey]; rfl

/-- Whether no step of a path goes through a sensitive key. -/
def IsClear (path : List (Step κ)) : Prop := ∀ key, .entry key ∈ path → isSensitive key = false

/-- A step leads to what comes of what it led to: to the cover through a sensitive key, and to the
redacted value otherwise. -/
theorem enter?_redact (v : LogValue κ α) (step : Step κ) :
    v.redact.enter? step = (v.enter? step).map fun inner =>
      match step with
      | .item _ => inner.redact
      | .entry key => redactUnder key inner := by
  cases v with
  | text s => cases step <;> rfl
  | scalar a => cases step <;> rfl
  | list items =>
    cases step with
    | item i => simp only [redact, enter?, redactItems_eq_map, List.getElem?_map]
    | entry key => rfl
  | tuple items =>
    cases step with
    | item i => simp only [redact, enter?, redactItems_eq_map, List.getElem?_map]
    | entry key => rfl
  | table entries =>
    cases step with
    | item i => rfl
    | entry key => exact lookup_redactEntries entries key

/-- A path through no sensitive key leads to what it led to, redacted. -/
theorem at?_redact (v : LogValue κ α) {path : List (Step κ)} (clear : IsClear path) :
    v.redact.at? path = (v.at? path).map redact := by
  induction path generalizing v with
  | nil => rfl
  | cons step path ih =>
    have hstep : v.redact.enter? step = (v.enter? step).map redact := by
      rw [enter?_redact]
      cases step with
      | item i => rfl
      | entry key => simp [redactUnder, clear key List.mem_cons_self]
    unfold at? at ih ⊢
    rw [List.foldlM_cons, List.foldlM_cons, hstep]
    cases v.enter? step with
    | none => rfl
    | some inner => exact ih inner fun key hkey => clear key (List.mem_cons_of_mem _ hkey)

/-- From there, a sensitive key leads to the cover. -/
theorem at?_redact_sensitive (v : LogValue κ α) {path : List (Step κ)} (clear : IsClear path)
    {key : κ} (sensitive : isSensitive key = true) :
    v.redact.at? (path ++ [.entry key]) = (v.at? (path ++ [.entry key])).map fun _ => cover := by
  rw [at?_concat, at?_concat, at?_redact v clear]
  cases v.at? path with
  | none => rfl
  | some inner =>
    rw [Option.map_some, Option.bind_some, Option.bind_some, enter?_redact]
    simp [redactUnder, sensitive]

end Paths

/-! ## What redaction tells apart -/

/-- Values that are the same but for what stands behind sensitive keys are the same when they have
been redacted. -/
theorem SameBut.redact {order : List κ → List κ → Prop} {v w : LogValue κ α}
    (h : SameBut isSensitive order v w) : SameBut (fun _ => false) order v.redact w.redact := by
  have items_redact {as bs : List (LogValue κ α)} (length : as.length = bs.length)
      (ih : ∀ (i : Nat) a b, as[i]? = some a → bs[i]? = some b →
        SameBut (fun _ => false) order a.redact b.redact) :
      SameBut (fun _ => false) order (.list (redactItems as)) (.list (redactItems bs)) := by
    rw [redactItems_eq_map, redactItems_eq_map]
    refine .list (by simpa using length) fun i a b ha hb => ?_
    rw [List.getElem?_map, Option.map_eq_some_iff] at ha hb
    obtain ⟨a, ha, rfl⟩ := ha
    obtain ⟨b, hb, rfl⟩ := hb
    exact ih i a b ha hb
  induction h with
  | text s => exact .text s
  | scalar a => exact .scalar a
  | list length _ ih => exact items_redact length ih
  | tuple length _ ih => exact items_redact length ih
  | @table as bs keys _ ih =>
    simp only [LogValue.redact, redactEntries_eq_map]
    refine .table ?_ fun key a b ha hb _ => ?_
    · simpa only [List.map_map, Function.comp_def] using keys
    · obtain ⟨⟨k, a'⟩, ha', hentry⟩ := List.mem_map.1 ha
      cases hentry
      obtain ⟨⟨l, b'⟩, hb', hentry⟩ := List.mem_map.1 hb
      cases hentry
      -- Only here the hypothesis says nothing about the two values, and both are covered.
      dsimp only [redactUnder]
      cases hkey : isSensitive k with
      | true => exact .text _
      | false => exact ih k a' b' ha' hb' hkey

mutual

/-- What has been redacted stays as it is. -/
theorem redact_redact : ∀ v : LogValue κ α, v.redact.redact = v.redact
  | .text _ => by simp only [redact]
  | .scalar _ => by simp only [redact]
  | .list items => by simp only [redact, redactItems_redactItems items]
  | .tuple items => by simp only [redact, redactItems_redactItems items]
  | .table entries => by simp only [redact, redactEntries_redactEntries entries]

theorem redactItems_redactItems : ∀ items : List (LogValue κ α),
    redactItems (redactItems items) = redactItems items
  | [] => rfl
  | item :: items => by
    simp only [redactItems, redact_redact item, redactItems_redactItems items]

theorem redactEntries_redactEntries : ∀ entries : List (κ × LogValue κ α),
    redactEntries (redactEntries entries) = redactEntries entries
  | [] => rfl
  | (key, v) :: entries => by
    simp only [redactEntries, redactEntries_redactEntries entries]
    cases isSensitive key with
    | true => rfl
    | false => simp [redact_redact v]

end

/-- Redaction covers up what stands under a sensitive key, at any depth, and keeps the shape of all
else, but for tuples, which become lists. Events that differ behind sensitive keys alone become the
same event, in whatever order their keys stand; and a redacted event stays as it is. -/
theorem redaction_leaks_nothing [DecidableEq κ] (event : LogValue κ α) :
    (∀ path, IsClear path →
      (event.redact.at? path).map shape = (event.at? path).map (fun v => v.shape.listed) ∧
      ∀ key, isSensitive key = true →
        event.redact.at? (path ++ [.entry key]) =
          (event.at? (path ++ [.entry key])).map fun _ => cover) ∧
    (∀ other, SameBut isSensitive Eq event other → event.redact = other.redact) ∧
    (∀ other, SameBut isSensitive List.Perm event other →
      SameBut (fun _ => false) List.Perm event.redact other.redact) ∧
    event.redact.redact = event.redact := by
  refine ⟨fun path clear => ⟨?_, fun key => at?_redact_sensitive event clear⟩,
    fun other same => same.redact.eq, fun other same => same.redact, redact_redact event⟩
  rw [at?_redact event clear, Option.map_map]
  exact congrArg (Option.map · _) (funext shape_redact)

/-- What the issuer has answered and a token in a table in a tuple are covered up, and what they
were can no longer be told. -/
theorem redaction_leaks_nothing_nested :
    let event (secret : LogValue String Unit) : LogValue String Unit :=
      .table [("event", .text "gateway_call"), ("PaRes", secret),
        ("nested", .tuple [.table [("Token", secret)]])]
    (event (.text "t")).redact.at? [.entry "nested", .item 0, .entry "Token"] = some cover ∧
      (event (.text "t")).redact = (event (.list [.scalar ()])).redact := by
  intro event
  obtain ⟨covered, same, -, -⟩ := redaction_leaks_nothing (event (.text "t"))
  have token : isSensitive "Token" = true := by decide
  have answer : isSensitive "PaRes" = true := by decide
  constructor
  · have clear : IsClear [.entry "nested", .item 0] := by
      intro key hkey
      obtain rfl : key = "nested" := by simpa using hkey
      decide
    exact (covered _ clear).2 "Token" token
  · have inner : SameBut isSensitive Eq (.table [("Token", .text "t")])
        (.table [("Token", (.list [.scalar ()] : LogValue String Unit))]) := by
      refine .table rfl fun key a b ha _ hidden => ?_
      obtain ⟨rfl, -⟩ : key = "Token" ∧ _ := by simpa using ha
      rw [token] at hidden
      cases hidden
    apply same
    refine .table rfl fun key a b ha hb hidden => ?_
    simp only [List.mem_cons, Prod.mk.injEq, List.not_mem_nil, or_false] at ha hb
    rcases ha with ⟨rfl, rfl⟩ | ⟨rfl, -⟩ | ⟨rfl, rfl⟩
    · obtain rfl : b = .text "gateway_call" := by simpa using hb
      exact .text _
    · rw [answer] at hidden
      cases hidden
    · obtain rfl : b = .tuple [.table [("Token", .list [.scalar ()])]] := by simpa using hb
      refine .tuple rfl fun i a b ha hb => ?_
      obtain ⟨-, rfl⟩ : _ ∧ _ = a := by simpa [List.getElem?_singleton] using ha
      obtain ⟨-, rfl⟩ : _ ∧ _ = b := by simpa [List.getElem?_singleton] using hb
      exact inner

end CardPayments.LogValue
