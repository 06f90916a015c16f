import ClusterBilling.Encoding.Grid

/-! Code page 950: where it departs from Big5. -/
namespace ClusterBilling.Encoding.Grid

def cp950Runs : List Run := [
  ⟨0xa1, 5, "‧"⟩,
  ⟨0xa1, 14, "﹑"⟩,
  ⟨0xa1, 96, "¯"⟩,
  ⟨0xa1, 129, "～"⟩,
  ⟨0xa1, 144, "⊕⊙"⟩,
  ⟨0xa2, 1, "∕﹨"⟩,
  ⟨0xa2, 4, "￥"⟩,
  ⟨0xa2, 6, "￠￡"⟩,
  ⟨0xa3, 127, "€"⟩,
  ⟨0xf9, 116, "碁銹裏墻恒粧嫺╔╦╗╠╬╣╚╩╝╒╤╕╞╪╡╘╧╛╓╥╖╟╫╢╙╨╜║═╭╮╰╯▓"⟩]

end ClusterBilling.Encoding.Grid
