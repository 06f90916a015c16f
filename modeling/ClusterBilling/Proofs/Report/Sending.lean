import ClusterBilling.Proofs.Prometheus.Replies
import ClusterBilling.Proofs.Report.Agreement

/-!
Which queries can be sent, and what they come to where all requests are accepted. Query texts hold
no surrogates of their own: where the texts of a request hold none, its queries can be sent.
-/
namespace ClusterBilling
open Prometheus Encoding

/-- The text holds no surrogate. -/
def Text.Scalar (t : Text) : Prop := ∀ p ∈ t.points, Repertoire.unicode.contains p

namespace Text

theorem scalar_ofString (s : String) : (ofString s).Scalar :=
  List.forall_mem_map.mpr fun _ _ => rfl

theorem Scalar.append {s t : Text} (hs : s.Scalar) (ht : t.Scalar) : (s ++ t).Scalar :=
  List.forall_mem_append.mpr ⟨hs, ht⟩

theorem Scalar.strip {t : Text} (h : t.Scalar) : (strip t).Scalar := by
  intro p hp
  unfold Text.strip stripWhile dropEndWhile at hp
  rw [List.mem_reverse] at hp
  have hp := List.mem_reverse.mp ((List.dropWhile_sublist _).subset hp)
  exact h p ((List.dropWhile_sublist _).subset hp)

end Text

theorem Prometheus.unsendable?_eq_none_iff (q : Query) :
    Client.unsendable? q = none ↔ q.text.Scalar :=
  Repertoire.missing?_eq_none_iff _ _

section
variable {window offset storage : Text}

theorem scalar_fill {filling : Filling} (h : ∀ name, (filling name).Scalar) (template : String) :
    (fill template filling).Scalar := by
  change ∀ p ∈ fillChars filling none template.toList, Repertoire.unicode.contains p
  generalize template.toList = cs
  generalize (none : Option (List Char)) = name?
  fun_induction fillChars filling name? cs with
  | case1 => exact nofun
  | case2 name cs ih => exact List.forall_mem_append.mpr ⟨h _, ih⟩
  | case3 name c cs hc ih => exact ih
  | case4 cs ih => exact List.forall_mem_cons.mpr ⟨rfl, ih⟩
  | case5 cs ih => exact List.forall_mem_cons.mpr ⟨rfl, ih⟩
  | case6 cs _ _ ih => exact ih
  | case7 c cs _ _ hc ih => exact List.forall_mem_cons.mpr ⟨rfl, ih⟩

theorem scalar_windowFilling (hw : window.Scalar) (ho : offset.Scalar) (hs : storage.Scalar)
    (name : String) : (windowFilling window offset storage name).Scalar := by
  unfold windowFilling
  split
  · exact hw
  · exact ho
  · exact hs
  · exact Text.scalar_ofString ""

theorem scalar_offsetClause (h : offset.Scalar) : (offsetClause offset).Scalar := by
  unfold offsetClause
  dsimp only
  split_ifs
  · exact Text.scalar_ofString ""
  · exact (Text.scalar_ofString _).append h.strip

theorem scalar_storageTerm (h : storage.Scalar) : (storageTerm storage).Scalar := by
  unfold storageTerm
  dsimp only
  split_ifs
  · exact Text.scalar_ofString ""
  · exact (Text.scalar_ofString _).append h.strip

theorem ReportRequest.names_billQueries (r : ReportRequest) : r.billQueries.map Prod.fst =
    ["data_count", "total_gpu", "total_cpu", "total_ram", "total_storage", "cpu_mode_pct",
      "ram_system_pct", "ram_other_pct"].map Text.ofString := by
  rfl

theorem ReportRequest.names_billQueries_nodup (r : ReportRequest) :
    (r.billQueries.map Prod.fst).Nodup := by
  rw [names_billQueries]
  decide +kernel

/-- The queries of bills can be sent. -/
theorem ReportRequest.sendable_billQueries {r : ReportRequest} (hw : r.window.Scalar)
    (ho : r.offset.Scalar) (hs : r.localStorage.Scalar) {q : NamedQuery} (hq : q ∈ r.billQueries) :
    Client.unsendable? q.2 = none := by
  rw [unsendable?_eq_none_iff]
  obtain ⟨⟨name, text⟩, ht, rfl⟩ := List.mem_map.mp hq
  have hf := scalar_windowFilling hw (scalar_offsetClause ho) (scalar_storageTerm hs)
  have hall : ∀ t ∈ ClusterBilling.billQueries r.window r.offset r.localStorage, t.2.Scalar := by
    simp [ClusterBilling.billQueries, scalar_fill hf]
  exact hall _ ht

end

/-- A network that accepts every request, with the same body for each. -/
def Prometheus.Network.accepting (body : List UInt8) : Network := fun _ =>
  { exchange := .reply ⟨200, [], body⟩ }

section
variable {body : List UInt8} {v : Json} {series : List (Series Float)} {q : Query}

/-- A query that is sent and accepted comes to the series of the value that is in the body. -/
theorem outcome_accepting {c : Client} (hb : c.HasBody ⟨200, [], body⟩ body)
    (hq : Client.unsendable? q = none) (hv : c.decode body = .ok v)
    (ha : readAnswer v = .ok series) : (c.backend (.accepting body)).outcome q = .ok series := by
  have hreceive : c.receive q (.reply ⟨200, [], body⟩) = .ok v := by
    rw [receive_of_accepted c q hb (by simp), hv]
  unfold Backend.outcome Client.backend Network.accepting
  simp only [hq, hreceive]
  rw [readBody, ha]

end
end ClusterBilling
