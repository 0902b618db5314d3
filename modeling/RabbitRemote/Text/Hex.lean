namespace RabbitRemote.Text

def hexFigures (width n : Nat) : List Char :=
  (List.range width).reverse.map fun place => Nat.digitChar (n / Nat.pow 16 place % 16)

end RabbitRemote.Text
