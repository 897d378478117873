import CaseFlow.Json.Reader
import CaseFlow.Json.Writer
import CaseFlow.Proofs.Value.Fields

/-!
# Reading back what is written

A value is simple if it is made of lists, of objects whose fields have distinct names, and of texts
in which nothing has to be escaped. Whatever is simple is read back from what is written of it
(`Json.read_write`).

Reading takes a value from the front of a text and leaves a rest, so the statement that goes through
by induction is the one about a text that goes on: the value is read as well, and what follows is
left (`Json.value_write`). It is proved together with the corresponding ones for items and for
members (`Json.items_write`, `Json.members_write`), by recursion on the value. `Json.Gives` speaks
of a step by what it reads and leaves, whichever text it was that the step began with.
-/

namespace CaseFlow.Json

variable {cs rest : List Char} {start : Nat} {s : String} {v : Value} {vs : List Value}
  {before fs : Fields}

/-! ## Values that are written as they are -/

/-- A character that stands for itself inside of a text. -/
def standsForItself (c : Char) : Bool := 0x20 ≤ c.toNat && c.toNat ≤ 0x7e && c != '"' && c != '\\'

/-- A text in which nothing has to be escaped. -/
def isVerbatim (s : String) : Bool := s.toList.all standsForItself

mutual

/-- A value made of lists, of objects whose fields have distinct names, and of texts in which
nothing has to be escaped. -/
def isSimple : Value → Bool
  | .text s => isVerbatim s
  | .list vs => areSimple vs
  | .object fs => haveSimple fs
  | _ => false

/-- Items that are simple. -/
def areSimple : List Value → Bool
  | [] => true
  | v :: vs => isSimple v && areSimple vs

/-- Fields whose values are simple, under distinct names in which nothing has to be escaped. -/
def haveSimple : List (String × Value) → Bool
  | [] => true
  | (name, v) :: fs =>
    isVerbatim name && !(Fields.names fs).contains name && isSimple v && haveSimple fs

end

/-! ## Texts -/

/-- A character that stands for itself is written as it is. -/
private theorem writtenChar_eq {c : Char} (h : standsForItself c = true) : writtenChar c = [c] := by
  simp only [standsForItself, Bool.and_eq_true, bne_iff_ne, decide_eq_true_eq] at h
  obtain ⟨⟨⟨hlow, hhigh⟩, hquote⟩, hslash⟩ := h
  unfold writtenChar
  -- The characters with escapes of their own are quotes, backslashes, or below the first letter.
  split
  · exact absurd rfl hquote
  · exact absurd rfl hslash
  · exact absurd hlow (by decide)
  · exact absurd hlow (by decide)
  · exact absurd hlow (by decide)
  · exact absurd hlow (by decide)
  · exact absurd hlow (by decide)
  · simp [hlow, hhigh]

/-- A verbatim text is written between quotes, with no escape. -/
theorem toList_writtenText (h : isVerbatim s = true) :
    (writtenText s).toList = '"' :: s.toList ++ ['"'] := by
  rw [isVerbatim, List.all_eq_true] at h
  have hsame : s.toList.flatMap writtenChar = s.toList.flatMap fun c => [c] :=
    List.flatMap_congr fun c hc => writtenChar_eq (h c hc)
  rw [writtenText, String.toList_ofList, hsame, List.flatMap_singleton']

/-- A step reads something and leaves the rest. -/
def Gives {α : Type} {cs : List Char} (x : Except Fault (Taken α cs)) (a : α)
    (rest : List Char) : Prop :=
  ∃ t, x = .ok t ∧ t.value = a ∧ t.rest = rest

namespace Gives

variable {α β : Type} {ds : List Char} {x : Except Fault (Taken α cs)} {a : α}

/-- What is read from a shorter rest is read in the longer text that it is a rest of. -/
theorem widen (h : Gives x a rest) (hle : cs.length ≤ ds.length) :
    Gives (x.map (·.widen hle)) a rest := by
  obtain ⟨t, rfl, rfl, rfl⟩ := h
  exact ⟨t.widen hle, rfl, rfl, rfl⟩

theorem map_widen (h : Gives x a rest) (f : α → β) (hle : cs.length ≤ ds.length) :
    Gives (x.map fun t => (t.map f).widen hle) (f a) rest := by
  obtain ⟨t, rfl, rfl, rfl⟩ := h
  exact ⟨(t.map f).widen hle, rfl, rfl, rfl⟩

end Gives

/-- Characters that stand for themselves are read up to the closing quote. -/
theorem textChars_gives (h : cs.all standsForItself = true) (start : Nat) (read rest : List Char) :
    Gives (textChars start read (cs ++ '"' :: rest)) (String.ofList (read.reverse ++ cs)) rest := by
  induction cs generalizing read with
  | nil =>
    rw [List.nil_append, textChars, List.append_nil]
    exact ⟨_, rfl, rfl, rfl⟩
  | cons c cs ih =>
    rw [List.all_cons, Bool.and_eq_true] at h
    obtain ⟨hc, hcs⟩ := h
    simp only [standsForItself, Bool.and_eq_true, bne_iff_ne, decide_eq_true_eq] at hc
    obtain ⟨⟨⟨hlow, -⟩, hquote⟩, hslash⟩ := hc
    -- A character that is neither quote, backslash nor control is kept, and the reader goes on.
    rw [List.cons_append, textChars.eq_4 _ _ _ _ hquote hslash, if_neg (Nat.not_lt.mpr hlow)]
    have hread := ih hcs (c :: read)
    rw [List.reverse_cons, List.append_assoc, List.singleton_append] at hread
    exact hread.widen _

/-- A written text is read back. -/
private theorem value_writtenText (h : isVerbatim s = true) (rest : List Char) :
    Gives (value ((writtenText s).toList ++ rest)) (.text s) rest := by
  have hread := textChars_gives h ((s.toList ++ '"' :: rest).length + 1) [] rest
  rw [List.reverse_nil, List.nil_append, String.ofList_toList] at hread
  rw [toList_writtenText h, List.cons_append, List.cons_append, List.append_assoc,
    List.singleton_append, value]
  exact hread.map_widen _ _

/-! ## Lists and objects -/

/-- Nothing is skipped before a character that is no space. -/
theorem skipGap_cons {c : Char} (h : isGap c = false) : skipGap (c :: cs) = c :: cs := by
  rw [skipGap, List.dropWhile_cons, h]
  rfl

/-- A list is read back, where its items are. -/
private theorem value_list (hgap : skipGap cs = cs) (hne : ∀ after, cs ≠ ']' :: after)
    (h : Gives (items [] cs) vs rest) : Gives (value ('[' :: cs)) (.list vs) rest := by
  rw [value]
  split
  · next after hr => exact absurd (hgap.symm.trans hr) (hne after)
  · refine Gives.map_widen ?_ _ _
    rw [hgap]
    exact h

/-- An object is read back, where its members are. -/
private theorem value_object (hgap : skipGap cs = cs) (hne : ∀ after, cs ≠ '}' :: after)
    (h : Gives (members [] cs) fs rest) : Gives (value ('{' :: cs)) (.object fs) rest := by
  rw [value]
  split
  · next after hr => exact absurd (hgap.symm.trans hr) (hne after)
  · refine Gives.map_widen ?_ _ _
    rw [hgap]
    exact h

/-- An item is followed by the closing bracket, or by a comma and the other items. -/
theorem items_item {read : List Value} {left : List Char} (h : Gives (value cs) v left)
    (hleft : left = ']' :: rest ∧ (v :: read).reverse = vs ∨
      ∃ next, left = ',' :: ' ' :: next ∧ skipGap next = next ∧
        Gives (items (v :: read) next) vs rest) :
    Gives (items read cs) vs rest := by
  obtain ⟨t, ht, rfl, rfl⟩ := h
  rw [items, ht]
  dsimp only
  -- Behind an item the list ends, or a comma announces another item.
  obtain ⟨hlast, rfl⟩ | ⟨next, hnext, hgap, hitems⟩ := hleft
  · have hlast : skipGap t.rest = ']' :: rest := by
      rw [hlast]
      exact skipGap_cons rfl
    split
    · next after hr =>
      rw [hlast, List.cons.injEq] at hr
      exact ⟨_, rfl, rfl, hr.2.symm⟩
    · next hr => cases hlast.symm.trans hr
    · next hne _ => exact absurd hlast (hne rest)
  · have hnext : skipGap t.rest = ',' :: ' ' :: next := by
      rw [hnext]
      exact skipGap_cons rfl
    -- Behind the comma stands one blank, which the reader skips.
    have hspace : skipGap (' ' :: next) = next := hgap
    rw [← hspace] at hitems
    split
    · next hr => cases hnext.symm.trans hr
    · next after hr =>
      rw [hnext, List.cons.injEq] at hr
      obtain ⟨-, rfl⟩ := hr
      exact hitems.widen _
    · next hne => exact absurd hnext (hne _)

/-- A field is followed by the closing brace, or by a comma and the other fields. -/
theorem members_field {name : String} {left : List Char} (hname : isVerbatim name = true)
    (hgap : skipGap cs = cs) (h : Gives (value cs) v left)
    (hleft : left = '}' :: rest ∧ before.set name v = fs ∨
      ∃ next, left = ',' :: ' ' :: next ∧ skipGap next = next ∧
        Gives (members (before.set name v) next) fs rest) :
    Gives (members before ((writtenText name).toList ++ ':' :: ' ' :: cs)) fs rest := by
  -- The name is read first, up to its closing quote.
  obtain ⟨u, hu, hvalue, hrest⟩ := textChars_gives hname
    ((name.toList ++ '"' :: ':' :: ' ' :: cs).length + 1) [] (':' :: ' ' :: cs)
  rw [List.reverse_nil, List.nil_append, String.ofList_toList] at hvalue
  have hcolon : skipGap u.rest = ':' :: ' ' :: cs := by
    rw [hrest]
    exact skipGap_cons rfl
  have hspace : skipGap (' ' :: cs) = cs := hgap
  rw [← hspace] at h
  -- Then follow the colon, a blank, and the value.
  obtain ⟨t, ht, rfl, rfl⟩ := h
  rw [toList_writtenText hname, List.cons_append, List.cons_append, List.append_assoc,
    List.singleton_append, members, hu]
  dsimp only
  split
  · next after hr =>
    rw [hcolon, List.cons.injEq] at hr
    obtain ⟨-, rfl⟩ := hr
    rw [ht]
    dsimp only
    -- Behind the value the object ends, or a comma announces another field.
    obtain ⟨hlast, rfl⟩ | ⟨next, hnext, hgap', hfields⟩ := hleft
    · have hlast : skipGap t.rest = '}' :: rest := by
        rw [hlast]
        exact skipGap_cons rfl
      split
      · next last hr =>
        rw [hlast, List.cons.injEq] at hr
        exact ⟨_, rfl, by rw [hvalue], hr.2.symm⟩
      · next hr => cases hlast.symm.trans hr
      · next hne _ => exact absurd hlast (hne rest)
    · have hnext : skipGap t.rest = ',' :: ' ' :: next := by
        rw [hnext]
        exact skipGap_cons rfl
      have hspace' : skipGap (' ' :: next) = next := hgap'
      rw [← hvalue, ← hspace'] at hfields
      split
      · next hr => cases hnext.symm.trans hr
      · next after hr =>
        rw [hnext, List.cons.injEq] at hr
        obtain ⟨-, rfl⟩ := hr
        exact hfields.widen _
      · next hne => exact absurd hnext (hne _)
  · next hne => exact absurd hcolon (hne _)

/-! ## Values -/

/-- Characters with which no space, no end of a list and no end of an object begins. -/
def Opens (cs : List Char) : Prop := ∃ c ds, cs = c :: ds ∧ isGap c = false ∧ c ≠ ']' ∧ c ≠ '}'

namespace Opens

/-- No gap is skipped before a text that opens a value. -/
theorem skipGap_eq (h : Opens cs) : skipGap cs = cs := by
  obtain ⟨c, ds, rfl, hc, -, -⟩ := h
  exact skipGap_cons hc

private theorem ne_bracket (h : Opens cs) (after : List Char) : cs ≠ ']' :: after := by
  obtain ⟨c, ds, rfl, -, hc, -⟩ := h
  rintro heq
  exact hc (List.cons.inj heq).1

private theorem ne_brace (h : Opens cs) (after : List Char) : cs ≠ '}' :: after := by
  obtain ⟨c, ds, rfl, -, -, hc⟩ := h
  rintro heq
  exact hc (List.cons.inj heq).1

end Opens

theorem opens_writtenText (h : isVerbatim s = true) (rest : List Char) :
    Opens ((writtenText s).toList ++ rest) := by
  rw [toList_writtenText h]
  exact ⟨'"', _, rfl, by decide⟩

/-- What is written of a simple value opens a value. -/
theorem opens_write (h : isSimple v = true) (rest : List Char) :
    Opens ((write v).toList ++ rest) := by
  cases v with
  | text s => exact opens_writtenText h rest
  | list vs =>
    rw [write, String.toList_append, String.toList_append, List.append_assoc]
    exact ⟨'[', _, rfl, by decide⟩
  | object fs =>
    rw [write, String.toList_append, String.toList_append, List.append_assoc]
    exact ⟨'{', _, rfl, by decide⟩
  | _ => cases h

theorem opens_writeItems (h : areSimple (v :: vs) = true) (rest : List Char) :
    Opens ((writeItems (v :: vs)).toList ++ rest) := by
  rw [areSimple, Bool.and_eq_true] at h
  cases vs with
  | nil => exact opens_write h.1 rest
  | cons w vs =>
    rw [writeItems, String.toList_append, String.toList_append, List.append_assoc,
      List.append_assoc]
    exact opens_write h.1 _

theorem writeMembers_append {name : String} {f : String × Value} (rest : List Char) :
    (writeMembers ((name, v) :: f :: fs)).toList ++ rest =
      (writtenText name).toList ++ ':' :: ' ' ::
        ((write v).toList ++ ',' :: ' ' :: ((writeMembers (f :: fs)).toList ++ rest)) := by
  rw [writeMembers]
  simp only [String.toList_append, List.append_assoc]
  rfl

theorem opens_writeMembers {name : String} (h : haveSimple ((name, v) :: fs) = true)
    (rest : List Char) : Opens ((writeMembers ((name, v) :: fs)).toList ++ rest) := by
  simp only [haveSimple, Bool.and_eq_true] at h
  cases fs with
  | nil =>
    rw [writeMembers, String.toList_append, String.toList_append, List.append_assoc,
      List.append_assoc]
    exact opens_writtenText h.1.1.1 _
  | cons f fs =>
    rw [writeMembers_append]
    exact opens_writtenText h.1.1.1 _

private theorem value_nil_list (rest : List Char) :
    Gives (value ('[' :: ']' :: rest)) (.list []) rest := by
  have hgap : skipGap (']' :: rest) = ']' :: rest := skipGap_cons rfl
  rw [value]
  split
  · next after hr =>
    rw [hgap, List.cons.injEq] at hr
    exact ⟨_, rfl, rfl, hr.2.symm⟩
  · next hne => exact absurd hgap (hne rest)

private theorem value_nil_object (rest : List Char) :
    Gives (value ('{' :: '}' :: rest)) (.object []) rest := by
  have hgap : skipGap ('}' :: rest) = '}' :: rest := skipGap_cons rfl
  rw [value]
  split
  · next after hr =>
    rw [hgap, List.cons.injEq] at hr
    exact ⟨_, rfl, rfl, hr.2.symm⟩
  · next hne => exact absurd hgap (hne rest)

mutual

/-- A simple value is read from what is written of it, and what follows is left. -/
theorem value_write : ∀ v : Value, isSimple v = true → ∀ rest : List Char,
    Gives (value ((write v).toList ++ rest)) v rest
  | .text _, h, rest => value_writtenText h rest
  | .list [], _, rest => value_nil_list rest
  | .list (v :: vs), h, rest => by
    -- The first item opens a value, so it is not taken for the closing bracket.
    have hopens := opens_writeItems h (']' :: rest)
    rw [write, String.toList_append, String.toList_append, List.append_assoc]
    exact value_list hopens.skipGap_eq hopens.ne_bracket
      (items_write (v :: vs) (List.cons_ne_nil v vs) h [] rest)
  | .object [], _, rest => value_nil_object rest
  | .object (f :: fs), h, rest => by
    have hopens := opens_writeMembers h ('}' :: rest)
    rw [write, String.toList_append, String.toList_append, List.append_assoc]
    exact value_object hopens.skipGap_eq hopens.ne_brace
      (members_write (f :: fs) (List.cons_ne_nil f fs) h [] (fun _ _ => List.not_mem_nil) rest)

/-- Simple items are read up to the closing bracket. -/
theorem items_write : ∀ vs : List Value, vs ≠ [] → areSimple vs = true →
    ∀ (read : List Value) (rest : List Char),
      Gives (items read ((writeItems vs).toList ++ ']' :: rest)) (read.reverse ++ vs) rest
  | [v], _, h, read, rest => by
    rw [areSimple, Bool.and_eq_true] at h
    exact items_item (value_write v h.1 _) (.inl ⟨rfl, List.reverse_cons⟩)
  | v :: w :: vs, _, h, read, rest => by
    rw [areSimple, Bool.and_eq_true] at h
    have hitems := items_write (w :: vs) (List.cons_ne_nil w vs) h.2 (v :: read) rest
    have hopens := opens_writeItems h.2 (']' :: rest)
    rw [List.reverse_cons, List.append_assoc, List.singleton_append] at hitems
    rw [writeItems, String.toList_append, String.toList_append, List.append_assoc,
      List.append_assoc]
    exact items_item (value_write v h.1 _) (.inr ⟨_, rfl, hopens.skipGap_eq, hitems⟩)

/-- Simple fields are read up to the closing brace, after others of different names. -/
theorem members_write : ∀ fs : List (String × Value), fs ≠ [] → haveSimple fs = true →
    ∀ before : Fields, (∀ name ∈ Fields.names fs, name ∉ before.names) → ∀ rest : List Char,
      Gives (members before ((writeMembers fs).toList ++ '}' :: rest)) (before ++ fs) rest
  | [(name, v)], _, h, before, hnew, rest => by
    simp only [haveSimple, Bool.and_eq_true] at h
    obtain ⟨⟨⟨hname, -⟩, hv⟩, -⟩ := h
    have hopens := opens_write hv ('}' :: rest)
    rw [writeMembers, String.toList_append, String.toList_append, List.append_assoc,
      List.append_assoc]
    refine members_field hname hopens.skipGap_eq (value_write v hv _) (.inl ⟨rfl, ?_⟩)
    exact Fields.set_of_notMem (hnew name List.mem_cons_self)
  | (name, v) :: f :: fs, _, h, before, hnew, rest => by
    rw [haveSimple, Bool.and_eq_true, Bool.and_eq_true, Bool.and_eq_true] at h
    obtain ⟨⟨⟨hname, hfresh⟩, hv⟩, hfs⟩ := h
    -- The name is new, so that the field is added at the end.
    have hset : before.set name v = before ++ [(name, v)] :=
      Fields.set_of_notMem (hnew name List.mem_cons_self)
    -- Nor has any of the names behind it been read by then.
    have hlater : ∀ other ∈ Fields.names (f :: fs), other ∉ (before.set name v).names := by
      intro other hother hmem
      rw [hset, Fields.names, List.map_append, List.mem_append, List.map_singleton,
        List.mem_singleton] at hmem
      obtain hmem | rfl := hmem
      · exact hnew other (List.mem_cons_of_mem _ hother) hmem
      · rw [List.contains_iff_mem.mpr hother] at hfresh
        cases hfresh
    have hmembers := members_write (f :: fs) (List.cons_ne_nil f fs) hfs _ hlater rest
    have hvalue := value_write v hv
      (',' :: ' ' :: ((writeMembers (f :: fs)).toList ++ '}' :: rest))
    have hopens := opens_write hv (',' :: ' ' :: ((writeMembers (f :: fs)).toList ++ '}' :: rest))
    rw [hset, List.append_assoc, List.singleton_append, ← hset] at hmembers
    rw [writeMembers_append]
    exact members_field hname hopens.skipGap_eq hvalue
      (.inr ⟨_, rfl, (opens_writeMembers hfs _).skipGap_eq, hmembers⟩)

end

/-- A simple value is read back from what is written of it. -/
theorem read_write (h : isSimple v = true) : read (write v) = .ok v := by
  have hgap := (opens_write h []).skipGap_eq
  have hvalue := value_write v h []
  rw [List.append_nil] at hgap hvalue
  rw [← hgap] at hvalue
  obtain ⟨t, ht, hv, hrest⟩ := hvalue
  rw [read, ht]
  dsimp only
  rw [hrest, hv]
  rfl

end CaseFlow.Json
