/-
**Prefixes of servers.**

A specification is served below the paths of its servers and at the root.  Each of these prefixes is
kept where it was declared first, and the root comes last only if no server declares it.  So a
server at the root hides every prefix that is declared after it, and the root is not always the last
resort.

Main definitions:

* `Server.base` — the path of a server without the slashes at its end;
* `Server.HasHost` — the address of a server is a full one;
* `Specification.firstOnes` — the texts of a list, each where it came first.

Main results:

* `Specification.getLast?_firstOnes_iff` — when a text comes last;
* `Server.head?_base_iff` — when a prefix begins with a slash;
* `Specification.bases_exact` — **what the prefixes of a specification are**.
-/

import ApiContract.Pattern.Library
import ApiContract.Proofs.Specification.Resolution
import ApiContract.Proofs.Text.Cutting
import Mathlib.Data.List.DropRight

set_option relaxedAutoImplicit false
set_option autoImplicit false

namespace ApiContract

/-! ### Paths of servers -/

namespace Text

variable {p : Char → Bool} {cs : List Char}

/-- What is left after trimming does not end with what was trimmed. -/
theorem getLast?_trimRight {c : Char} (h : (trimRight p cs).getLast? = some c) : p c = false := by
  have hne : trimRight p cs ≠ [] := by
    intro hnil
    rw [hnil] at h
    cases h
  rw [List.getLast?_eq_some_getLast hne, Option.some.injEq] at h
  rw [← h]
  exact Bool.eq_false_iff.2 (List.rdropWhile_last_not p cs hne)

/-- What is left after trimming, if anything, begins as the text does. -/
theorem head?_trimRight (h : trimRight p cs ≠ []) : (trimRight p cs).head? = cs.head? := by
  obtain ⟨rest, hrest⟩ := List.rdropWhile_prefix p cs
  calc (trimRight p cs).head? = (trimRight p cs ++ rest).head? :=
        (List.head?_append_of_ne_nil _ h).symm
    _ = cs.head? := congrArg List.head? hrest

end Text

open Specification (serverAddress serverPath)

namespace Server

variable {server : Server}

/-- The path of a server without the slashes at its end. -/
def base (server : Server) : String :=
  String.ofList (Text.trimRight Path.isSlash (serverPath server))

/-- The address of a server names a host. -/
def HasHost (server : Server) : Prop :=
  Text.occurs "://".toList (serverAddress server) = true

theorem toList_base : server.base.toList = Text.trimRight Path.isSlash (serverPath server) :=
  String.toList_ofList

theorem getLast?_base_ne : server.base.toList.getLast? ≠ some '/' := by
  intro h
  rw [toList_base] at h
  cases Text.getLast?_trimRight h

/-- **A prefix begins with a slash** exactly if the address names a host or begins with a slash. -/
theorem head?_base_iff (h : server.base ≠ "") :
    server.base.toList.head? = some '/' ↔
      server.HasHost ∨ (serverAddress server).head? = some '/' := by
  have hne : Text.trimRight Path.isSlash (serverPath server) ≠ [] := by
    intro hnil
    rw [base, hnil] at h
    exact h rfl
  have hhead : server.base.toList.head? = (serverPath server).head? := by
    rw [toList_base, Text.head?_trimRight hne]
  have hpath : serverPath server ≠ [] := by
    intro hnil
    rw [hnil] at hne
    exact hne rfl
  rw [hhead]
  unfold HasHost Text.occurs
  unfold serverPath at hpath ⊢
  cases hcut : Text.cutAt "://".toList (serverAddress server) with
  | none => simp
  | some parts =>
      -- what follows the host is cut before its first slash
      simp only [hcut] at hpath ⊢
      refine iff_of_true ?_ (Or.inl rfl)
      obtain ⟨c, cs, hrest⟩ := List.exists_cons_of_ne_nil hpath
      have hc := List.head?_dropWhile_not (fun c => decide (c ≠ '/')) parts.2
      rw [hrest] at hc ⊢
      simpa using hc

end Server

/-! ### Texts kept once -/

namespace Specification

section

variable {texts : List String} {a : String}

/-- The texts of a list, each where it came first. -/
def firstOnes (texts : List String) : List String :=
  texts.foldl (fun seen t => if t ∈ seen then seen else seen ++ [t]) []

theorem mem_firstOnes : a ∈ firstOnes texts ↔ a ∈ texts := by
  obtain ⟨new, heq, -, hmem⟩ := exists_foldl_new [] texts
  rw [firstOnes, heq, List.nil_append, hmem, and_iff_left List.not_mem_nil]

theorem nodup_firstOnes (texts : List String) : (firstOnes texts).Nodup := by
  obtain ⟨new, heq, hnodup, -⟩ := exists_foldl_new [] texts
  rw [firstOnes, heq, List.nil_append]
  exact hnodup

/-- A text that is there comes last exactly if nothing new follows where it came first. -/
theorem getLast?_firstOnes_iff {before after : List String} (h : a ∉ before) :
    (firstOnes (before ++ a :: after)).getLast? = some a ↔ ∀ b ∈ after, b = a ∨ b ∈ before := by
  have hseen : firstOnes (before ++ a :: after) =
      after.foldl (fun seen t => if t ∈ seen then seen else seen ++ [t])
        (firstOnes before ++ [a]) := by
    rw [firstOnes, List.foldl_append, ← firstOnes, List.foldl_cons, if_neg (mt mem_firstOnes.1 h)]
  obtain ⟨new, heq, -, hmem⟩ := exists_foldl_new (firstOnes before ++ [a]) after
  rw [hseen, heq]
  have hnew : ∀ b, b ∈ new ↔ b ∈ after ∧ ¬ (b = a ∨ b ∈ before) := by
    intro b
    rw [hmem, List.mem_append, mem_firstOnes, List.mem_singleton, or_comm]
  have hnil : new = [] ↔ ∀ b ∈ after, b = a ∨ b ∈ before := by
    simp only [List.eq_nil_iff_forall_not_mem, hnew, not_and, not_not]
  rw [← hnil]
  constructor
  · intro hlast
    by_contra hne
    rw [List.getLast?_append_of_ne_nil _ hne] at hlast
    exact ((hnew a).1 (List.mem_of_getLast? hlast)).2 (Or.inl rfl)
  · rintro rfl
    simp

/-- A text that is added comes last exactly if it was not there, or if nothing new follows where it
came first. -/
theorem getLast?_firstOnes_concat_iff :
    (firstOnes (texts ++ [a])).getLast? = some a ↔
      ∀ before after, texts = before ++ a :: after → a ∉ before →
        ∀ b ∈ after, b = a ∨ b ∈ before := by
  constructor
  · rintro h before after rfl hbefore b hb
    rw [List.append_assoc, List.cons_append] at h
    exact (getLast?_firstOnes_iff hbefore).1 h b (List.mem_append_left _ hb)
  · intro h
    by_cases ha : a ∈ texts
    · obtain ⟨before, after, rfl, hbefore⟩ := List.eq_append_cons_of_mem ha
      rw [List.append_assoc, List.cons_append, getLast?_firstOnes_iff hbefore]
      exact List.forall_mem_append.2 ⟨h before after rfl hbefore, by simp⟩
    · exact (getLast?_firstOnes_iff ha).2 (by simp)

/-- The prefixes of servers are their paths and the root, each where it came first. -/
theorem basesOf_eq (servers : List Server) :
    basesOf servers = firstOnes (servers.map Server.base ++ [""]) := by
  have hconcat : firstOnes (servers.map Server.base ++ [""]) =
      if "" ∈ firstOnes (servers.map Server.base) then firstOnes (servers.map Server.base)
      else firstOnes (servers.map Server.base) ++ [""] := by
    rw [firstOnes, List.foldl_append, ← firstOnes, List.foldl_cons, List.foldl_nil]
  rw [hconcat]
  rfl

end

/-! ### Prefixes of specifications -/

/-- **What the prefixes of a specification are.**  They are the root and the paths of the servers,
each of them once.  The root comes last exactly if no server declares it, or if each prefix that is
declared after it was declared before it as well.  No prefix ends with a slash, and one that is not
the root begins with a slash exactly if the address that it comes from names a host or begins with
a slash. -/
theorem bases_exact [Libraries] {d : Document} {s : Specification} (h : ofDocument d = .ok s) :
    s.bases.Nodup ∧
      (∀ b, b ∈ s.bases ↔ b = "" ∨ b ∈ d.servers.map Server.base) ∧
      (s.bases.getLast? = some "" ↔
        ∀ before after, d.servers.map Server.base = before ++ "" :: after → "" ∉ before →
          ∀ b ∈ after, b = "" ∨ b ∈ before) ∧
      ∀ b ∈ s.bases, b.toList.getLast? ≠ some '/' ∧
        (b ≠ "" → ∀ server ∈ d.servers, server.base = b →
          (b.toList.head? = some '/' ↔
            server.HasHost ∨ (serverAddress server).head? = some '/')) := by
  obtain ⟨-, -, -, rfl⟩ := ofDocument_eq_ok_iff.1 h
  have hmem : ∀ b, b ∈ basesOf d.servers ↔ b = "" ∨ b ∈ d.servers.map Server.base := by
    intro b
    rw [basesOf_eq, mem_firstOnes, List.mem_append, List.mem_singleton, or_comm]
  refine ⟨?_, hmem, ?_, fun b hb => ⟨?_, ?_⟩⟩
  · rw [followed, basesOf_eq]
    exact nodup_firstOnes _
  · rw [followed, basesOf_eq]
    exact getLast?_firstOnes_concat_iff
  · rcases (hmem b).1 hb with rfl | hb
    · simp
    · obtain ⟨server, -, rfl⟩ := List.mem_map.1 hb
      exact Server.getLast?_base_ne
  · rintro hne server - rfl
    exact Server.head?_base_iff hne

/-- A document with a server at the root and another one after it. -/
def rootedDocument : Document where
  format := "3.0.3"
  info := { title := "A", version := "1" }
  servers := [{ url := "/" }, { url := "/v1" }]

/-- A server at the root comes before one that is declared after it, so that the root is not the
last resort. -/
theorem bases_exact_rooted :
    ofDocument rootedDocument = .ok (followed rootedDocument) ∧
      (followed rootedDocument).bases = ["", "/v1"] ∧
      (followed rootedDocument).bases.getLast? ≠ some "" := by
  have hload : ofDocument rootedDocument = .ok (followed rootedDocument) := rfl
  have hpaths : rootedDocument.servers.map Server.base = [] ++ "" :: ["/v1"] := by decide
  obtain ⟨-, -, hlast, -⟩ := bases_exact hload
  refine ⟨hload, by decide, fun h => ?_⟩
  have hv1 := hlast.1 h [] ["/v1"] hpaths List.not_mem_nil "/v1" List.mem_cons_self
  simp at hv1

end Specification

end ApiContract
